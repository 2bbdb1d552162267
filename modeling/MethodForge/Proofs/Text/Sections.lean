/-
Module: MethodForge.Proofs.Text.Sections
Purpose: Lines that follow each other in sections, without marks between them. When each section starts
  with a key that what follows it does not start with, two lists of lines that are equal have equal
  sections.
Main exports: StartsApart, optionalLine, optionalLine_append_inj, blocks_append_inj, sectionLines,
  sectionLines_append_inj
-/
import Mathlib.Data.List.Infix

namespace MethodForge.Text

variable {α : Type} {key : String} {block : α → List String} {rest rest' : List String}

/-- Whether the first of some lines, if there is one, does not start with a key. -/
def StartsApart (key : String) (lines : List String) : Prop :=
  ∀ line ∈ lines.head?, ¬ key.toList <+: line.toList

theorem startsApart_nil (key : String) : StartsApart key [] := by
  intro line first
  cases first

theorem startsApart_cons {line : String} (other : ¬ key.toList <+: line.toList)
    (rest : List String) : StartsApart key (line :: rest) := by
  intro first same
  cases same
  exact other

/-- Lines that may be left out start apart from a key if they do and what follows does. -/
theorem StartsApart.append {lines : List String} (apart : StartsApart key lines)
    (later : StartsApart key rest) : StartsApart key (lines ++ rest) := by
  cases lines with
  | nil => exact later
  | cons line others => exact apart

theorem StartsApart.ne_cons {line : String} {others : List String} (apart : StartsApart key rest)
    (starts : key.toList <+: line.toList) : rest ≠ line :: others := by
  rintro rfl
  exact apart line rfl starts

/-- The value that stands behind a key on a line of its own, if there is one. -/
def optionalLine (key : String) (value? : Option String) : List String :=
  (value?.map (key ++ ·)).toList

/-- An optional line is told apart from what follows it. -/
theorem optionalLine_append_inj {first? second? : Option String} (apart : StartsApart key rest)
    (apart' : StartsApart key rest')
    (same : optionalLine key first? ++ rest = optionalLine key second? ++ rest') :
    first? = second? ∧ rest = rest' := by
  have starts : ∀ value : String, key.toList <+: (key ++ value).toList := by
    intro value
    rw [String.toList_append]
    exact List.prefix_append ..
  cases first? with
  | none =>
      cases second? with
      | none => exact ⟨rfl, same⟩
      | some value => exact absurd same (apart.ne_cons (starts value))
  | some value =>
      cases second? with
      | none => exact absurd same.symm (apart'.ne_cons (starts value))
      | some value' =>
          obtain ⟨lines, rests⟩ := List.cons.inj same
          exact ⟨congrArg some (by simpa [← String.toList_inj] using lines), rests⟩

/-- Blocks that all start with a key are told apart from what follows them. -/
theorem blocks_append_inj
    (starts : ∀ item, ∃ line others, block item = line :: others ∧ key.toList <+: line.toList)
    (injective : ∀ item item' lines lines', block item ++ lines = block item' ++ lines' →
      item = item' ∧ lines = lines')
    (apart : StartsApart key rest) (apart' : StartsApart key rest') {items items' : List α}
    (same : items.flatMap block ++ rest = items'.flatMap block ++ rest') :
    items = items' ∧ rest = rest' := by
  induction items generalizing items' with
  | nil =>
      cases items' with
      | nil => exact ⟨rfl, same⟩
      | cons item' later' =>
          obtain ⟨line, others, order, isKey⟩ := starts item'
          rw [List.flatMap_cons, order] at same
          exact absurd same (apart.ne_cons isKey)
  | cons item later ih =>
      cases items' with
      | nil =>
          obtain ⟨line, others, order, isKey⟩ := starts item
          rw [List.flatMap_cons, order] at same
          exact absurd same.symm (apart'.ne_cons isKey)
      | cons item' later' =>
          rw [List.flatMap_cons, List.flatMap_cons, List.append_assoc, List.append_assoc] at same
          obtain ⟨rfl, remaining⟩ := injective _ _ _ _ same
          obtain ⟨rfl, rests⟩ := ih remaining
          exact ⟨rfl, rests⟩

/-- Blocks under a heading, which is left out when there are none. -/
def sectionLines (heading : String) (block : α → List String) (items : List α) : List String :=
  if items.isEmpty then [] else heading :: items.flatMap block

/-- A section is told apart from what follows it. -/
theorem sectionLines_append_inj {heading : String}
    (starts : ∀ item, ∃ line others, block item = line :: others ∧ key.toList <+: line.toList)
    (injective : ∀ item item' lines lines', block item ++ lines = block item' ++ lines' →
      item = item' ∧ lines = lines')
    (apart : StartsApart key rest) (apart' : StartsApart key rest')
    (headingApart : StartsApart heading rest) (headingApart' : StartsApart heading rest')
    {items items' : List α}
    (same : sectionLines heading block items ++ rest = sectionLines heading block items' ++ rest') :
    items = items' ∧ rest = rest' := by
  cases items with
  | nil =>
      cases items' with
      | nil => exact ⟨rfl, same⟩
      | cons item' later' => exact absurd same (headingApart.ne_cons List.prefix_rfl)
  | cons item later =>
      cases items' with
      | nil => exact absurd same.symm (headingApart'.ne_cons List.prefix_rfl)
      | cons item' later' =>
          exact blocks_append_inj starts injective apart apart' (List.cons.inj same).2

end MethodForge.Text
