/-
Module: MethodForge.Proofs.JsonText.StringLiteral
Purpose: A quoted text is one of the spellings of the text, whatever it holds: quotes and backslashes
  have short escapes, controls a short escape or their digits, and every other character stands for
  itself. So it is read as the text, different texts are quoted differently, a quoted text stands on
  one line, and each quote inside it is behind a backslash.
Main exports: spellsText_quote, expectString_quote, quote_injective, newline_not_mem_quote,
  keyed_quote_injective
-/
import Mathlib.Data.List.Chain
import MethodForge.Proofs.JsonText.Spelling

namespace MethodForge.JsonText

theorem isHexDigit_hexDigit {value : Nat} (small : value < 16) :
    IsHexDigit value (hexDigit value) := by
  left
  revert value
  decide

/-- A control is quoted by a short escape, or else by the digits of its code. -/
theorem quoteChar_control {code : Nat} (control : code < 0x20) :
    (∃ short ∈ shortEscapes, short.2 = Char.ofNat code ∧
        quoteChar (Char.ofNat code) = ['\\', short.1]) ∨
      quoteChar (Char.ofNat code) =
        ['\\', 'u', '0', '0', hexDigit (code / 16), hexDigit (code % 16)] := by
  revert code
  decide

/-- The quoted form of a character is one of its spellings. -/
theorem spellsChar_quoteChar (character : Char) : SpellsChar character (quoteChar character) := by
  by_cases mark : character = '"'
  · subst mark
    exact .short (by decide)
  by_cases slash : character = '\\'
  · subst slash
    exact .short (by decide)
  by_cases plain : character.toNat ≥ 0x20
  · have itself : quoteChar character = [character] := by simp [quoteChar, mark, slash, plain]
    rw [itself]
    exact .itself mark slash plain
  · have control : character.toNat < 0x20 := by omega
    have cases := quoteChar_control control
    rw [Char.ofNat_toNat] at cases
    rcases cases with ⟨⟨escape, _⟩, known, rfl, short⟩ | digits
    · rw [short]
      exact .short known
    · rw [digits]
      have zero : IsHexDigit 0 '0' := .inl rfl
      have sixteens : character.toNat / 0x10 % 0x10 = character.toNat / 16 := by omega
      refine .unit ⟨?_, ?_, ?_, ?_⟩
      · rwa [show character.toNat / 0x1000 = 0 by omega]
      · rwa [show character.toNat / 0x100 % 0x10 = 0 by omega]
      · rw [sixteens]
        exact isHexDigit_hexDigit (by omega)
      · exact isHexDigit_hexDigit (Nat.mod_lt _ (by decide))

theorem spells_flatMap_quoteChar (characters : List Char) :
    Spells characters (characters.flatMap quoteChar) := by
  induction characters with
  | nil => exact .nil
  | cons character characters ih =>
      rw [List.flatMap_cons]
      exact .cons (spellsChar_quoteChar character) ih

/-- The quoted form of a text is one of its spellings. -/
theorem spellsText_quote (text : String) : SpellsText text (quote text).toList := by
  rw [quote, String.toList_ofList, quoteChars]
  exact .quoted (spells_flatMap_quoteChar text.toList)

/-- A quoted text is read where a string is expected. -/
theorem expectString_quote (text : String) (rest : List Char) :
    expectString ((quote text).toList ++ rest) = .ok (text, rest) := by
  have read := expectString_of_spellsText .nil (spellsText_quote text) rest
  rwa [List.nil_append] at read

/-! ### What a quoted text holds -/

/-- Different texts are quoted differently. -/
theorem quote_injective {first second : String} (same : quote first = quote second) :
    first = second := by
  have read := expectString_quote first []
  rw [same, expectString_quote, Except.ok.injEq, Prod.mk.injEq] at read
  exact read.1.symm

/-- Controls are quoted without a line feed and without a quote. -/
theorem not_mem_quoteChar_control {code : Nat} (control : code < 0x20) :
    '\n' ∉ quoteChar (Char.ofNat code) ∧ '"' ∉ quoteChar (Char.ofNat code) := by
  revert code
  decide

theorem quoteChar_of_not_control {character : Char} (plain : ¬ character.toNat < 0x20) :
    quoteChar character =
      if character = '"' then ['\\', '"']
      else if character = '\\' then ['\\', '\\'] else [character] := by
  simp only [quoteChar, if_pos (Nat.le_of_not_lt plain)]

theorem newline_not_mem_quoteChar (character : Char) : '\n' ∉ quoteChar character := by
  by_cases control : character.toNat < 0x20
  · rw [← Char.ofNat_toNat character]
    exact (not_mem_quoteChar_control control).1
  · rw [quoteChar_of_not_control control]
    split_ifs
    · decide
    · decide
    · rw [List.mem_singleton]
      rintro rfl
      exact control (by decide)

/-- A quoted text stands on one line. -/
theorem newline_not_mem_quote (text : String) : '\n' ∉ (quote text).toList := by
  simp [quote, quoteChars, newline_not_mem_quoteChar]

theorem eq_of_mark_mem_quoteChar {character : Char} (mark : '"' ∈ quoteChar character) :
    character = '"' := by
  by_cases control : character.toNat < 0x20
  · rw [← Char.ofNat_toNat character] at mark
    exact absurd mark (not_mem_quoteChar_control control).2
  · rw [quoteChar_of_not_control control] at mark
    split_ifs at mark with isMark isSlash
    · exact isMark
    · simp at mark
    · exact (List.mem_singleton.1 mark).symm

theorem quoteChar_ne_nil (character : Char) : quoteChar character ≠ [] := by
  simp only [quoteChar]
  split_ifs <;> exact List.cons_ne_nil _ _

/-- Whether a character may follow another one inside a quoted text: a quote follows a backslash. -/
def Escaped (before after : Char) : Prop :=
  after = '"' → before = '\\'

theorem isChain_quoteChar (character : Char) : (quoteChar character).IsChain Escaped := by
  by_cases mark : character = '"'
  · subst mark
    exact List.isChain_pair.2 fun _ => rfl
  · refine (List.pairwise_of_forall_mem_list ?_).isChain
    intro before _ after member isMark
    exact absurd (eq_of_mark_mem_quoteChar (isMark ▸ member)) mark

theorem head?_quoteChar_ne (character : Char) : (quoteChar character).head? ≠ some '"' := by
  intro first
  cases eq_of_mark_mem_quoteChar (List.mem_of_head? first)
  cases first

/-- Inside a quoted text each quote is behind a backslash. -/
theorem isChain_flatMap_quoteChar (characters : List Char) :
    (characters.flatMap quoteChar).IsChain Escaped := by
  induction characters with
  | nil => exact List.isChain_nil
  | cons character rest ih =>
      rw [List.flatMap_cons, List.isChain_append]
      refine ⟨isChain_quoteChar character, ih, ?_⟩
      intro before _ after first isMark
      subst isMark
      cases rest with
      | nil => cases first
      | cons next later =>
          rw [List.flatMap_cons, List.head?_append_of_ne_nil _ (quoteChar_ne_nil next)] at first
          exact absurd first (head?_quoteChar_ne next)

/-- A key, a colon, a blank and a quoted text cannot be cut at another place: the quote that opens the
text is behind a blank, and none inside it is. -/
theorem eq_nil_of_keyed_quote {before characters characters' : List Char}
    (same : ':' :: ' ' :: quoteChars characters = before ++ ':' :: ' ' :: quoteChars characters') :
    before = [] := by
  match before with
  | [] => rfl
  | [_] => simp at same
  | [_, _] => simp [quoteChars] at same
  | _ :: _ :: _ :: inside =>
      have bodies : characters.flatMap quoteChar ++ ['"'] =
          (inside ++ ':' :: ' ' :: '"' :: characters'.flatMap quoteChar) ++ ['"'] := by
        simp only [quoteChars, List.cons_append, List.cons.injEq] at same
        simpa using same.2.2.2
      have chain := isChain_flatMap_quoteChar characters
      rw [List.append_cancel_right bodies, List.isChain_append] at chain
      have opening : Escaped ' ' '"' :=
        (List.isChain_cons_cons.1 (List.isChain_cons_cons.1 chain.2.1).2).1
      exact absurd (opening rfl) (by decide)

/-- A key and a quoted text are told apart, whatever the key holds. -/
theorem keyed_quote_injective {key key' value value' : String}
    (same : key ++ ": " ++ quote value = key' ++ ": " ++ quote value') :
    key = key' ∧ value = value' := by
  have spelled : ∀ key value : String, (key ++ ": " ++ quote value).toList =
      key.toList ++ ':' :: ' ' :: quoteChars value.toList := by
    intro key value
    simp [quote]
  have parts := congrArg String.toList same
  rw [spelled, spelled] at parts
  have keys : key = key' := by
    apply String.toList_inj.1
    rcases List.append_eq_append_iff.1 parts with ⟨more, longer, rest⟩ | ⟨more, longer, rest⟩
    · rw [longer, eq_nil_of_keyed_quote rest, List.append_nil]
    · rw [longer, eq_nil_of_keyed_quote rest, List.append_nil]
  subst keys
  have quoted : quoteChars value.toList = quoteChars value'.toList := by simpa using parts
  exact ⟨rfl, quote_injective (congrArg String.ofList quoted)⟩

end MethodForge.JsonText
