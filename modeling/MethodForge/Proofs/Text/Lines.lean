/-
Module: MethodForge.Proofs.Text.Lines
Purpose: Lines are read back as they were written. A text made of lines is cut into the same lines,
  as long as none of them holds a line feed, and tidying leaves a text alone whose lines do not end
  in blanks and whose last line is not empty.
Main exports: linesOf_unlines, Neat, neat_append_words, trimEnd_append_words,
  isInfix_linesOf_unlines, after?, valuesUnder, linesOf_tidy_unlines,
  tidy_unlines_map_trimEnd, head?_linesOf_tidy_unlines
-/
import MethodForge.Proofs.Text.Words
import MethodForge.Text.Lines
import Mathlib.Data.List.DropRight

namespace MethodForge.Text

theorem toList_unlines_cons (line : String) (rest : List String) :
    (unlines (line :: rest)).toList = line.toList ++ '\n' :: (unlines rest).toList := by
  simp [unlines]

/-- Cutting at line feeds takes off one line after the other and leaves nothing behind the last. -/
theorem splitOn_unlines (lines : List String) :
    (unlines lines).toList.splitOn '\n' =
      lines.flatMap (fun line => line.toList.splitOn '\n') ++ [[]] := by
  induction lines with
  | nil => rfl
  | cons line rest ih =>
      rw [toList_unlines_cons, List.splitOn_append_cons_self, ih, List.flatMap_cons,
        List.append_assoc]

theorem linesOfPieces_append_nil (pieces : List (List Char)) :
    linesOfPieces (pieces ++ [[]]) = pieces.map dropReturn := by
  induction pieces with
  | nil => rfl
  | cons piece rest ih =>
      cases rest with
      | nil => rfl
      | cons next rest =>
          rw [List.cons_append, List.cons_append, linesOfPieces, ← List.cons_append, ih]
          rfl

/-- The lines of a text are those that it was made of, cut where they hold line feeds. -/
theorem linesOf_unlines (lines : List String) :
    linesOf (unlines lines) =
      (lines.flatMap fun line => line.toList.splitOn '\n').map dropReturn := by
  rw [linesOf, splitOn_unlines, linesOfPieces_append_nil]

/-! ### Neat lines -/

/-- Whether a line stays one line, the same, when its text is tidied. -/
def Neat (line : String) : Prop :=
  '\n' ∉ line.toList ∧ dropEndBlanks line.toList = line.toList

instance (line : String) : Decidable (Neat line) :=
  inferInstanceAs (Decidable (_ ∧ _))

/-- A text that ends in a character that is not blank keeps its end. -/
theorem dropEndBlanks_append_of_not_isBlank {last : Char} (solid : isBlank last = false)
    (before : List Char) : dropEndBlanks (before ++ [last]) = before ++ [last] := by
  rw [dropEndBlanks, List.reverse_append, List.reverse_singleton, List.singleton_append,
    List.dropWhile_cons_of_neg (by simp [solid]), List.reverse_cons, List.reverse_reverse]

theorem dropReturn_of_dropEndBlanks {line : List Char} (trimmed : dropEndBlanks line = line) :
    dropReturn line = line := by
  unfold dropReturn
  split
  · rename_i before order
    have blank : isBlank '\r' = true := by decide
    have whole : line.length = before.length + 1 := by
      rw [← List.length_reverse, order, List.length_cons]
    have kept : (before.dropWhile isBlank).length = line.length := by
      have lengths := congrArg List.length trimmed
      rwa [dropEndBlanks, order, List.dropWhile_cons_of_pos blank, List.length_reverse] at lengths
    have bound : (before.dropWhile isBlank).length ≤ before.length :=
      (List.dropWhile_sublist isBlank).length_le
    omega
  · rfl

/-- A carriage return at the end is blank. -/
theorem dropEndBlanks_dropReturn (line : List Char) :
    dropEndBlanks (dropReturn line) = dropEndBlanks line := by
  unfold dropReturn
  split
  · rename_i before order
    have blank : isBlank '\r' = true := by decide
    rw [dropEndBlanks, dropEndBlanks, order, List.reverse_reverse, List.dropWhile_cons_of_pos blank]
  · rfl

/-- A line without its last blanks is neat. -/
theorem neat_trimEnd {line : String} (closed : '\n' ∉ line.toList) : Neat (trimEnd line) := by
  rw [Neat, trimEnd, String.toList_ofList]
  exact ⟨fun member => closed ((List.rdropWhile_prefix isBlank line.toList).subset member),
    List.rdropWhile_idempotent isBlank line.toList⟩

theorem trimEnd_of_neat {line : String} (neat : Neat line) : trimEnd line = line := by
  rw [trimEnd, neat.2, String.ofList_toList]

/-- A text that ends in a word keeps its end. -/
theorem dropEndBlanks_append_word (before : String) {word : String} (solid : IsWord word) :
    dropEndBlanks (before ++ word).toList = (before ++ word).toList := by
  obtain ⟨nonempty, noBlank⟩ := solid
  have some : word.toList ≠ [] := by simpa using nonempty
  rw [String.toList_append, ← List.dropLast_concat_getLast some, ← List.append_assoc]
  exact dropEndBlanks_append_of_not_isBlank (noBlank _ (List.getLast_mem some)) _

/-- A line that ends in a word is neat. -/
theorem neat_append_word {before word : String} (closed : '\n' ∉ before.toList)
    (solid : IsWord word) : Neat (before ++ word) := by
  refine ⟨?_, dropEndBlanks_append_word before solid⟩
  rw [String.toList_append]
  intro member
  rcases List.mem_append.1 member with inBefore | inWord
  · exact closed inBefore
  · exact solid.2.not_mem (by decide) inWord

/-- Texts without blanks hold no line feed, and neither do the spaces between them. -/
theorem closed_append_intercalate {before : String} (closed : '\n' ∉ before.toList)
    {words : List String} (solid : ∀ word ∈ words, Solid word) :
    '\n' ∉ (before ++ " ".intercalate words).toList := by
  induction words generalizing before with
  | nil => simpa using closed
  | cons word rest ih =>
      have first : '\n' ∉ (before ++ word).toList := by
        have closedWord : '\n' ∉ word.toList :=
          (solid word List.mem_cons_self).not_mem (by decide)
        simp [closed, closedWord]
      cases rest with
      | nil => simpa using first
      | cons next rest =>
          rw [String.intercalate_cons_cons, ← String.append_assoc, ← String.append_assoc]
          refine ih ?_ fun other member => solid other (List.mem_cons_of_mem _ member)
          simp only [String.toList_append] at first ⊢
          simpa using first

/-- A line that ends in texts without blanks, with spaces between them, is neat if the last of them
is a word. -/
theorem neat_append_words {before : String} (closed : '\n' ∉ before.toList) {words : List String}
    {some : words ≠ []} (solid : ∀ word ∈ words, Solid word)
    (ended : IsWord (words.getLast some)) : Neat (before ++ " ".intercalate words) := by
  refine ⟨closed_append_intercalate closed solid, ?_⟩
  have parts := List.dropLast_concat_getLast some
  by_cases one : words.dropLast = []
  · rw [← parts, one, List.nil_append, String.intercalate_singleton]
    exact dropEndBlanks_append_word before ended
  · rw [← parts, String.intercalate_append_of_ne_nil one (by simp), String.intercalate_singleton,
      ← String.append_assoc]
    exact dropEndBlanks_append_word _ ended

/-- Behind words, spaces with nothing after them are trimmed away. -/
theorem trimEnd_append_words {before : String} {words more : List String} (some : words ≠ [])
    (start : Neat (before ++ " ".intercalate words)) (solid : ∀ word ∈ more, Solid word) :
    trimEnd (before ++ " ".intercalate (words ++ more)) =
      before ++ " ".intercalate (words ++ more.rdropWhile String.isEmpty) := by
  induction more using List.reverseRecOn with
  | nil => simp [trimEnd_of_neat start]
  | append_singleton more last ih =>
      have behind : before ++ " ".intercalate (words ++ (more ++ [last])) =
          before ++ " ".intercalate (words ++ more) ++ " " ++ last := by
        rw [← List.append_assoc, String.intercalate_append_of_ne_nil (by simp [some]) (by simp),
          String.intercalate_singleton]
        simp only [String.append_assoc]
      by_cases empty : last.isEmpty = true
      · have nothing : last = "" := by simpa using empty
        rw [List.rdropWhile_concat_pos _ _ _ empty,
          ← ih fun word member => solid word (List.mem_append_left _ member), behind, nothing,
          String.append_empty, trimEnd, trimEnd, String.toList_append]
        exact congrArg String.ofList (List.rdropWhile_concat_pos isBlank _ ' ' (by decide))
      · have word : IsWord last := ⟨by simpa using empty, solid last (by simp)⟩
        rw [List.rdropWhile_concat_neg _ _ _ empty, behind, trimEnd,
          dropEndBlanks_append_word _ word, String.ofList_toList]

/-- Lines without line feeds are not cut. -/
theorem flatMap_splitOn_of_closed {lines : List String}
    (closed : ∀ line ∈ lines, '\n' ∉ line.toList) :
    (lines.flatMap fun line => line.toList.splitOn '\n') = lines.map String.toList := by
  induction lines with
  | nil => rfl
  | cons line rest ih =>
      have later := ih fun other member => closed other (List.mem_cons_of_mem _ member)
      rw [List.flatMap_cons, later, List.splitOn_eq_singleton (closed line List.mem_cons_self),
        List.map_cons, List.singleton_append]

/-- Lines without line feeds are cut apart again, a carriage return at their end aside. -/
theorem linesOf_unlines_of_closed {lines : List String}
    (closed : ∀ line ∈ lines, '\n' ∉ line.toList) :
    linesOf (unlines lines) = lines.map fun line => dropReturn line.toList := by
  rw [linesOf_unlines, flatMap_splitOn_of_closed closed, List.map_map]
  rfl

theorem linesOf_unlines_cons_of_neat {first : String} (neat : Neat first) (rest : List String) :
    linesOf (unlines (first :: rest)) = first.toList :: linesOf (unlines rest) := by
  rw [linesOf_unlines, List.flatMap_cons, List.splitOn_eq_singleton neat.1, List.singleton_append,
    List.map_cons, dropReturn_of_dropEndBlanks neat.2, linesOf_unlines]

theorem linesOf_unlines_of_neat {lines : List String} (neat : ∀ line ∈ lines, Neat line) :
    linesOf (unlines lines) = lines.map String.toList := by
  rw [linesOf_unlines_of_closed fun line member => (neat line member).1]
  exact List.map_congr_left fun line member => dropReturn_of_dropEndBlanks (neat line member).2

/-- A block of neat lines is read where it was written, whatever stands around it. -/
theorem isInfix_linesOf_unlines {block lines : List String} (inside : block <:+: lines)
    (neat : ∀ line ∈ block, Neat line) :
    block.map String.toList <:+: linesOf (unlines lines) := by
  obtain ⟨before, after, rfl⟩ := inside
  rw [← linesOf_unlines_of_neat neat]
  simp only [linesOf_unlines, List.flatMap_append, List.map_append]
  exact List.infix_append _ _ _

theorem mem_linesOf_unlines {line : String} {lines : List String} (member : line ∈ lines)
    (neat : Neat line) : line.toList ∈ linesOf (unlines lines) := by
  obtain ⟨before, after, order⟩ := List.append_of_mem member
  have inside : [line] <:+: lines := ⟨before, after, by simp [order]⟩
  have block := isInfix_linesOf_unlines inside (by simpa using neat)
  exact block.subset (List.mem_singleton.2 rfl)

/-! ### Lines that start with a key -/

/-- What follows `start` in a text that starts with it. -/
def after? (start text : List Char) : Option (List Char) :=
  if start <+: text then some (text.drop start.length) else none

@[simp] theorem after?_append (start rest : List Char) :
    after? start (start ++ rest) = some rest := by
  simp [after?]

/-- What follows `key` in the lines that start with it. -/
def valuesUnder (key : String) (lines : List String) : List String :=
  lines.filterMap fun line => (after? key.toList line.toList).map String.ofList

theorem valuesUnder_append (key : String) (first second : List String) :
    valuesUnder key (first ++ second) = valuesUnder key first ++ valuesUnder key second :=
  List.filterMap_append

theorem valuesUnder_cons (key value : String) (rest : List String) :
    valuesUnder key ((key ++ value) :: rest) = value :: valuesUnder key rest := by
  simp [valuesUnder]

theorem valuesUnder_cons_of_not {key line : String} (other : ¬ key.toList <+: line.toList)
    (rest : List String) : valuesUnder key (line :: rest) = valuesUnder key rest := by
  simp [valuesUnder, after?, other]

theorem valuesUnder_eq_nil {key : String} {lines : List String}
    (other : ∀ line ∈ lines, ¬ key.toList <+: line.toList) : valuesUnder key lines = [] := by
  rw [valuesUnder, List.filterMap_eq_nil_iff]
  intro line member
  rw [after?, if_neg (other line member), Option.map_none]

/-! ### Tidied texts -/

/-- Neat lines are the lines of the tidied text, unless the last of them is empty. -/
theorem tidyLines_unlines {lines : List String} (neat : ∀ line ∈ lines, Neat line)
    (ended : lines.getLast? ≠ some "") : tidyLines (unlines lines) = lines.map String.toList := by
  have same : (linesOf (unlines lines)).map dropEndBlanks = lines.map String.toList := by
    rw [linesOf_unlines_of_neat neat, List.map_map]
    exact List.map_congr_left fun line member => (neat line member).2
  rw [tidyLines, same]
  cases order : (lines.map String.toList).reverse with
  | nil => simp_all
  | cons last before =>
      have notEmpty : ¬ last.isEmpty = true := by
        intro empty
        refine ended ?_
        have lastLine : (lines.map String.toList).getLast? = some last := by
          rw [← List.head?_reverse, order, List.head?_cons]
        rw [List.getLast?_map, Option.map_eq_some_iff] at lastLine
        obtain ⟨line, found, text⟩ := lastLine
        have nothing : line = "" := by simpa [← text] using empty
        rw [found, nothing]
      rw [List.dropWhile_cons_of_neg notEmpty, ← order, List.reverse_reverse]

/-- Tidying a text of neat lines leaves it as it is, unless its last line is empty. -/
theorem tidy_unlines {lines : List String} (neat : ∀ line ∈ lines, Neat line)
    (ended : lines.getLast? ≠ some "") : tidy (unlines lines) = unlines lines := by
  rw [tidy, tidyLines_unlines neat ended, List.map_map]
  simp [Function.comp_def]

/-- What is written as neat lines is read as these lines, also after tidying. -/
theorem linesOf_tidy_unlines {lines : List String} (neat : ∀ line ∈ lines, Neat line)
    (ended : lines.getLast? ≠ some "") :
    linesOf (tidy (unlines lines)) = lines.map String.toList := by
  rw [tidy_unlines neat ended, linesOf_unlines_of_neat neat]

/-- The blanks that end the lines do not matter to tidying. -/
theorem tidy_unlines_map_trimEnd {lines : List String}
    (closed : ∀ line ∈ lines, '\n' ∉ line.toList) :
    tidy (unlines (lines.map trimEnd)) = tidy (unlines lines) := by
  have trimmed : (linesOf (unlines (lines.map trimEnd))).map dropEndBlanks =
      (linesOf (unlines lines)).map dropEndBlanks := by
    have neat : ∀ line ∈ lines.map trimEnd, Neat line := by
      intro line member
      obtain ⟨whole, inLines, rfl⟩ := List.mem_map.1 member
      exact neat_trimEnd (closed whole inLines)
    rw [linesOf_unlines_of_neat neat, linesOf_unlines_of_closed closed, List.map_map, List.map_map,
      List.map_map]
    refine List.map_congr_left fun line _ => ?_
    simp only [Function.comp_apply, trimEnd, String.toList_ofList, dropEndBlanks_dropReturn]
    exact List.rdropWhile_idempotent isBlank line.toList
  rw [tidy, tidy, tidyLines, tidyLines, trimmed]

/-- Tidying keeps a first line that is neat and not empty, whatever follows it. -/
theorem head?_linesOf_tidy_unlines {first : String} (neat : Neat first) (nonempty : first ≠ "")
    (rest : List String) :
    (linesOf (tidy (unlines (first :: rest)))).head? = some first.toList := by
  have notEmpty : ¬ first.toList.isEmpty = true := by simpa using nonempty
  obtain ⟨others, kept⟩ : ∃ others, tidyLines (unlines (first :: rest)) = first.toList :: others := by
    refine ⟨(((linesOf (unlines rest)).map dropEndBlanks).reverse.dropWhile List.isEmpty).reverse, ?_⟩
    rw [tidyLines, linesOf_unlines_cons_of_neat neat, List.map_cons, neat.2, List.reverse_cons,
      List.dropWhile_append, List.dropWhile_cons_of_neg notEmpty]
    split <;> simp_all
  rw [tidy, kept, List.map_cons, String.ofList_toList, linesOf_unlines_cons_of_neat neat,
    List.head?_cons]

end MethodForge.Text
