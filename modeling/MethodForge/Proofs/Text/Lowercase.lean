/-
Module: MethodForge.Proofs.Text.Lowercase
Purpose: What lower-casing leaves alone. Every small letter is one by its code, in ASCII and behind it,
  so lower-casing writes no sign, digit or control: those in the small form of a text are those of
  the text. None of them is blank either, so a word stays one.
Main exports: lowercaseChar_cases, mem_of_mem_lowercase, IsWord.lowercase
-/
import MethodForge.Proofs.Naming

namespace MethodForge.Text

/-- The first of the small letters. Signs, digits and controls of ASCII come before it, the bar, the
braces and the tilde apart. -/
def firstSmall : Nat := 0x61

/-- Small letters in the table are characters, and none of them comes before the first one. -/
theorem lowercaseRuns_shifted :
    ∀ run ∈ lowercaseRuns,
      (firstSmall : Int) ≤ run.first + run.shift ∧
        (run.last + run.shift < 0xD800 ∨
          0xE000 ≤ run.first + run.shift ∧ run.last + run.shift < 0x110000) := by
  decide +kernel

/-- What the small form of a character is: the character itself, the letter behind a capital of ASCII,
or what the table says. -/
theorem lowercaseChar_cases (character : Char) :
    lowercaseChar character = character ∨
      (0x41 ≤ character.toNat ∧ character.toNat ≤ 0x5A ∧
        (lowercaseChar character).toNat = character.toNat + 0x20) ∨
      ∃ run ∈ lowercaseRuns, run.first ≤ character.toNat ∧ character.toNat ≤ run.last ∧
        ((lowercaseChar character).toNat : Int) = character.toNat + run.shift := by
  by_cases ascii : character.toNat < 0x80
  · by_cases capital : 0x41 ≤ character.toNat ∧ character.toNat ≤ 0x5A
    · refine .inr (.inl ⟨capital.1, capital.2, ?_⟩)
      simp only [lowercaseChar, ascii, capital, decide_true, Bool.and_self, if_true]
      exact toNat_ofNat_of_valid (.inl (by omega))
    · left
      simp only [lowercaseChar, ascii, if_true, ite_eq_right_iff, Bool.and_eq_true,
        decide_eq_true_eq]
      exact fun within => absurd within capital
  · cases search : lowercaseRuns.find? (·.covers character.toNat) with
    | none =>
        left
        simp only [lowercaseChar, if_neg ascii, search]
    | some run =>
        have member := List.mem_of_find?_eq_some search
        have covered := List.find?_some search
        have shifted := lowercaseRuns_shifted run member
        simp only [CaseRun.covers, Bool.and_eq_true, decide_eq_true_eq] at covered
        rw [firstSmall] at shifted
        have valid : (character.toNat + run.shift).toNat.isValidChar := by
          rw [Nat.isValidChar]
          omega
        refine .inr (.inr ⟨run, member, covered.1.1, covered.1.2, ?_⟩)
        simp only [lowercaseChar, if_neg ascii, search]
        rw [toNat_ofNat_of_valid valid]
        omega

/-- The small form of a character is itself or a small letter. -/
theorem lowercaseChar_eq_self_or (character : Char) :
    lowercaseChar character = character ∨ firstSmall ≤ (lowercaseChar character).toNat := by
  rcases lowercaseChar_cases character with same | ⟨low, -, small⟩ | ⟨run, member, low, -, small⟩
  · exact .inl same
  · right
    rw [firstSmall]
    omega
  · right
    have shifted := (lowercaseRuns_shifted run member).1
    omega

theorem eq_of_mem_lowercaseAt {sign character : Char} (early : sign.toNat < firstSmall)
    {before after : List Char} (member : sign ∈ lowercaseAt before character after) :
    sign = character := by
  have single {small : Char} (late : firstSmall ≤ small.toNat) : sign ≠ small := by
    rintro rfl
    omega
  unfold lowercaseAt at member
  split at member
  · split at member
    · exact absurd (List.mem_singleton.1 member) (single (by decide))
    · exact absurd (List.mem_singleton.1 member) (single (by decide))
  · split at member
    · rcases List.mem_cons.1 member with first | second
      · exact absurd first (single (by decide))
      · exact absurd (List.mem_singleton.1 second) (single (by decide))
    · have same := List.mem_singleton.1 member
      rcases lowercaseChar_eq_self_or character with kept | small
      · exact same.trans kept
      · exact absurd same (single small)

/-- Lower-casing writes nothing that comes before the small letters. -/
theorem mem_of_mem_lowercaseFrom {sign : Char} (early : sign.toNat < firstSmall)
    {before characters : List Char} (member : sign ∈ lowercaseFrom before characters) :
    sign ∈ characters := by
  induction characters generalizing before with
  | nil => exact member
  | cons character rest ih =>
      rcases List.mem_append.1 member with here | later
      · have same : sign = character := by
          exact eq_of_mem_lowercaseAt early here
        exact same ▸ List.mem_cons_self
      · exact List.mem_cons_of_mem _ (ih later)

theorem mem_of_mem_lowercase {sign : Char} (early : sign.toNat < firstSmall) {text : String}
    (member : sign ∈ (lowercase text).toList) : sign ∈ text.toList := by
  rw [lowercase, String.toList_ofList] at member
  exact mem_of_mem_lowercaseFrom early member

/-! ### Texts without blanks -/

/-- No small letter in the table is blank. -/
theorem lowercaseRuns_solid :
    ∀ run ∈ lowercaseRuns, ∀ range ∈ blankRanges,
      (run.last + run.shift < range.1 ∨ range.2 < run.first + run.shift : Prop) := by
  decide +kernel

theorem isBlank_lowercaseChar {character : Char} (solid : isBlank character = false) :
    isBlank (lowercaseChar character) = false := by
  rcases lowercaseChar_cases character with same | ⟨low, high, small⟩ | ⟨run, member, low, high, small⟩
  · rw [same, solid]
  · exact isBlank_eq_false_of_toNat (by omega) (by omega)
  · rw [isBlank, inRanges, List.any_eq_false]
    intro range inTable within
    have apart := lowercaseRuns_solid run member range inTable
    simp only [Bool.and_eq_true, decide_eq_true_eq] at within
    omega

theorem isBlank_of_mem_lowercaseAt {before after : List Char} {character small : Char}
    (solid : isBlank character = false) (member : small ∈ lowercaseAt before character after) :
    isBlank small = false := by
  unfold lowercaseAt at member
  split at member
  · split at member
    · exact List.mem_singleton.1 member ▸ by decide
    · exact List.mem_singleton.1 member ▸ by decide
  · split at member
    · rcases List.mem_cons.1 member with rfl | second
      · decide
      · exact List.mem_singleton.1 second ▸ by decide
    · exact List.mem_singleton.1 member ▸ isBlank_lowercaseChar solid

/-- Lower-casing brings no blank into a text. -/
theorem Solid.lowercase {text : String} (solid : Solid text) : Solid (lowercase text) := by
  have each : ∀ (characters before : List Char),
      (∀ character ∈ characters, isBlank character = false) →
      ∀ small ∈ lowercaseFrom before characters, isBlank small = false := by
    intro characters
    induction characters with
    | nil => simp [lowercaseFrom]
    | cons character rest ih =>
        intro before allSolid small member
        rcases List.mem_append.1 member with here | later
        · exact isBlank_of_mem_lowercaseAt (allSolid character List.mem_cons_self) here
        · exact ih _ (fun other inRest => allSolid other (List.mem_cons_of_mem _ inRest)) small later
  intro small member
  rw [Text.lowercase, String.toList_ofList] at member
  exact each text.toList [] solid small member

/-- The small form of a word is a word. -/
theorem IsWord.lowercase {text : String} (word : IsWord text) : IsWord (lowercase text) :=
  ⟨lowercase_ne_empty word.1, word.2.lowercase⟩

end MethodForge.Text
