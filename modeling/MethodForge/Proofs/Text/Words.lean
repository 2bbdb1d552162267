/-
Module: MethodForge.Proofs.Text.Words
Purpose: Words and the separators between them. A word is a text without blanks: it can stand on a
  line with others and be cut out of it again, and trimming leaves it as it is, with or without
  blanks around it.
Main exports: intercalate_cons, not_mem_of_mem_splitOn, Solid, IsWord, Blank,
  splitOn_space_intercalate, trim_append
-/
import MethodForge.Text.Ascii
import MethodForge.Text.Blank

namespace MethodForge.Text

/-! ### Separators -/

/-- The pieces behind the first one each bring their separator. -/
theorem intercalate_cons {α : Type} (separator : α) (first : List α) (rest : List (List α)) :
    [separator].intercalate (first :: rest) = first ++ rest.flatMap (separator :: ·) := by
  induction rest generalizing first with
  | nil => simp
  | cons second rest ih =>
      rw [List.intercalate_cons_cons, ih, List.flatMap_cons]
      simp

/-- No piece of a text that is cut at a separator holds the separator. -/
theorem not_mem_of_mem_splitOn {α : Type} [BEq α] [LawfulBEq α] {separator : α}
    {text piece : List α} (member : piece ∈ text.splitOn separator) : separator ∉ piece := by
  induction text generalizing piece with
  | nil =>
      have same : piece = [] := by simpa using member
      simp [same]
  | cons head rest ih =>
      rw [List.splitOn_cons_eq_if_modifyHead] at member
      obtain ⟨first, others, split⟩ :=
        List.exists_cons_of_ne_nil (List.splitOn_ne_nil separator rest)
      rw [split] at ih member
      by_cases same : head = separator
      · subst same
        rw [if_pos (beq_self_eq_true head)] at member
        rcases List.mem_cons.1 member with rfl | inRest
        · exact List.not_mem_nil
        · exact ih inRest
      · have cases : piece = head :: first ∨ piece ∈ others := by simpa [same] using member
        rcases cases with rfl | inOthers
        · have inFirst : separator ∉ first := ih List.mem_cons_self
          simp [inFirst, Ne.symm same]
        · exact ih (List.mem_cons_of_mem _ inOthers)

/-! ### Character classes -/

theorem isLetter_iff (character : Char) :
    isLetter character = true ↔ 0x61 ≤ character.toNat ∧ character.toNat ≤ 0x7A ∨
      0x41 ≤ character.toNat ∧ character.toNat ≤ 0x5A := by
  simp only [isLetter, Bool.or_eq_true, Bool.and_eq_true, decide_eq_true_eq]
  rfl

theorem isDigit_iff (character : Char) :
    isDigit character = true ↔ 0x30 ≤ character.toNat ∧ character.toNat ≤ 0x39 := by
  simp only [isDigit, Bool.and_eq_true, decide_eq_true_eq]
  rfl

theorem toNat_ofNat_of_valid {code : Nat} (valid : code.isValidChar) :
    (Char.ofNat code).toNat = code := by
  rw [Char.ofNat, dif_pos valid]
  rfl

/-- Between the space and the first control behind ASCII no character is blank. -/
theorem isBlank_eq_false_of_toNat {character : Char} (low : 0x20 < character.toNat)
    (high : character.toNat < 0x80) : isBlank character = false := by
  simp [isBlank, inRanges, blankRanges]
  omega

/-! ### Texts with and without blanks -/

/-- Whether a text has no blank in it. -/
def Solid (text : String) : Prop :=
  ∀ character ∈ text.toList, isBlank character = false

/-- Whether a text is a word: not empty, and without blanks. -/
def IsWord (text : String) : Prop :=
  text ≠ "" ∧ Solid text

instance (text : String) : Decidable (Solid text) :=
  List.decidableBAll (fun character => isBlank character = false) text.toList

instance (text : String) : Decidable (IsWord text) :=
  inferInstanceAs (Decidable (_ ∧ _))

/-- Whether a text is made of blanks, or empty. -/
def Blank (text : String) : Prop :=
  ∀ character ∈ text.toList, isBlank character = true

instance (text : String) : Decidable (Blank text) :=
  List.decidableBAll (fun character => isBlank character = true) text.toList

theorem Solid.append {first second : String} (firstSolid : Solid first)
    (secondSolid : Solid second) : Solid (first ++ second) := by
  intro character member
  rw [String.toList_append] at member
  rcases List.mem_append.1 member with inFirst | inSecond
  · exact firstSolid character inFirst
  · exact secondSolid character inSecond

/-- A word stays one when more is put behind it. -/
theorem IsWord.append {word rest : String} (start : IsWord word) (solid : Solid rest) :
    IsWord (word ++ rest) := by
  refine ⟨?_, start.2.append solid⟩
  rw [ne_eq, String.append_eq_empty_iff]
  exact fun empty => start.1 empty.1

theorem Solid.not_mem {text : String} (solid : Solid text) {character : Char}
    (blank : isBlank character = true) : character ∉ text.toList := by
  intro member
  rw [solid character member] at blank
  cases blank

/-- Words put together with spaces are cut apart again at the spaces. -/
theorem splitOn_space_intercalate {words : List String} (some : words ≠ [])
    (apart : ∀ word ∈ words, ' ' ∉ word.toList) :
    (" ".intercalate words).toList.splitOn ' ' = words.map String.toList := by
  have spaces : (" ".intercalate words).toList = [' '].intercalate (words.map String.toList) := by
    simp [String.toList_intercalate]
  rw [spaces]
  refine List.splitOn_intercalate ' ' ?_ (by simpa using some)
  intro characters member
  obtain ⟨word, inWords, rfl⟩ := List.mem_map.1 member
  exact apart word inWords

theorem dropEndBlanks_of_not_isBlank {text : List Char}
    (solid : ∀ character ∈ text, isBlank character = false) : dropEndBlanks text = text := by
  cases order : text.reverse with
  | nil => simp_all [dropEndBlanks]
  | cons last before =>
      have member : last ∈ text := List.mem_reverse.1 (by rw [order]; exact List.mem_cons_self)
      rw [dropEndBlanks, order, List.dropWhile_cons_of_neg (by simp [solid last member]), ← order,
        List.reverse_reverse]

theorem dropEndBlanks_append (text : List Char) {after : List Char}
    (blank : ∀ character ∈ after, isBlank character = true) :
    dropEndBlanks (text ++ after) = dropEndBlanks text := by
  rw [dropEndBlanks, List.reverse_append, List.dropWhile_append_of_pos, dropEndBlanks]
  exact fun character member => blank character (List.mem_reverse.1 member)

/-- Trimming takes the blanks around a text without blanks away. -/
theorem trim_append {before text after : String} (blankBefore : Blank before) (solid : Solid text)
    (blankAfter : Blank after) : trim (before ++ text ++ after) = text := by
  have start : (before ++ text ++ after).toList.dropWhile isBlank =
      (text.toList ++ after.toList).dropWhile isBlank := by
    rw [String.toList_append, String.toList_append, List.append_assoc,
      List.dropWhile_append_of_pos blankBefore]
  rw [trim, start]
  cases characters : text.toList with
  | nil =>
      have gone : after.toList.dropWhile isBlank = [] := by
        rw [← List.append_nil after.toList, List.dropWhile_append_of_pos blankAfter]
        rfl
      rw [List.nil_append, gone, String.toList_eq_nil_iff.1 characters]
      rfl
  | cons first rest =>
      have notBlank : isBlank first = false := solid first (characters ▸ List.mem_cons_self)
      rw [List.cons_append, List.dropWhile_cons_of_neg (by simp [notBlank]), ← List.cons_append,
        ← characters, dropEndBlanks_append _ blankAfter, dropEndBlanks_of_not_isBlank solid,
        String.ofList_toList]

example : Blank " \t\n\x0b\x0c\r" := by decide

end MethodForge.Text
