/-
Module: MethodForge.Proofs.Text.Tidy
Purpose: What tidying does to any text. The lines of a text are told apart as a relation, one way for
  each line end. A tidied text has the same lines, each without the blanks that ended it, up to the
  last line that is not blank; every one of them is ended by a line feed, and there is nothing else
  in the text. So tidying a second time changes nothing.
Main exports: HasLines, hasLines_linesOf, neat_of_mem_tidyLines, getLast?_tidyLines, IsTidied,
  tidy_trims_ends
-/
import MethodForge.Proofs.Text.Lines

namespace MethodForge.Text

/-! ### The lines of a text -/

/-- The lines of a text. A line ends with a line feed, or with a carriage return and a line feed, and
the last one may have no end. A carriage return that no line feed follows belongs to its line. -/
inductive HasLines : List Char → List (List Char) → Prop where
  | none : HasLines [] []
  | unended {line : List Char} (some : line ≠ []) (closed : '\n' ∉ line) : HasLines line [line]
  | feed {line rest : List Char} {lines : List (List Char)} (closed : '\n' ∉ line)
      (plain : line.getLast? ≠ some '\r') (later : HasLines rest lines) :
      HasLines (line ++ '\n' :: rest) (line :: lines)
  | returnFeed {line rest : List Char} {lines : List (List Char)} (closed : '\n' ∉ line)
      (later : HasLines rest lines) : HasLines (line ++ '\r' :: '\n' :: rest) (line :: lines)

theorem dropReturn_of_getLast? {line : List Char} (plain : line.getLast? ≠ some '\r') :
    dropReturn line = line := by
  unfold dropReturn
  split
  · rename_i before order
    refine absurd ?_ plain
    rw [← List.head?_reverse, order, List.head?_cons]
  · rfl

theorem dropReturn_concat (line : List Char) : dropReturn (line ++ ['\r']) = line := by
  simp [dropReturn]

/-- One line before its line feed, whichever end it has. -/
theorem HasLines.ended {line rest : List Char} {lines : List (List Char)} (closed : '\n' ∉ line)
    (later : HasLines rest lines) :
    HasLines (line ++ '\n' :: rest) (dropReturn line :: lines) := by
  by_cases returned : line.getLast? = some '\r'
  · obtain ⟨before, rfl⟩ := List.getLast?_eq_some_iff.1 returned
    have closedBefore : '\n' ∉ before := fun member => closed (List.mem_append_left _ member)
    rw [dropReturn_concat, List.append_assoc, List.singleton_append]
    exact .returnFeed closedBefore later
  · rw [dropReturn_of_getLast? returned]
    exact .feed closed returned later

/-- The pieces between line feeds stand for the lines of the text that they make up. -/
theorem hasLines_linesOfPieces {pieces : List (List Char)}
    (closed : ∀ piece ∈ pieces, '\n' ∉ piece) :
    HasLines (['\n'].intercalate pieces) (linesOfPieces pieces) := by
  induction pieces with
  | nil => exact .none
  | cons piece rest ih =>
      have closedPiece := closed piece List.mem_cons_self
      cases rest with
      | nil =>
          rw [List.intercalate_singleton, linesOfPieces]
          cases piece with
          | nil => exact .none
          | cons first others => exact .unended (List.cons_ne_nil _ _) closedPiece
      | cons next rest =>
          rw [List.intercalate_cons_cons, List.append_assoc, linesOfPieces]
          exact .ended closedPiece (ih fun other member => closed other (List.mem_cons_of_mem _ member))

theorem linesOfPieces_cons (piece : List Char) {rest : List (List Char)} (some : rest ≠ []) :
    linesOfPieces (piece :: rest) = dropReturn piece :: linesOfPieces rest := by
  obtain ⟨next, others, rfl⟩ := List.exists_cons_of_ne_nil some
  rfl

theorem linesOfPieces_of_hasLines {text : List Char} {lines : List (List Char)}
    (has : HasLines text lines) : linesOfPieces (text.splitOn '\n') = lines := by
  induction has with
  | none => rfl
  | unended some closed =>
      rw [List.splitOn_eq_singleton closed, linesOfPieces, if_neg (by simpa using some)]
  | feed closed plain _ ih =>
      rw [List.splitOn_append_cons_self_of_not_mem closed,
        linesOfPieces_cons _ (List.splitOn_ne_nil _ _), dropReturn_of_getLast? plain, ih]
  | @returnFeed line rest lines closed _ ih =>
      have closedReturn : '\n' ∉ line ++ ['\r'] := by simpa using closed
      rw [← List.singleton_append, ← List.append_assoc,
        List.splitOn_append_cons_self_of_not_mem closedReturn,
        linesOfPieces_cons _ (List.splitOn_ne_nil _ _), dropReturn_concat, ih]

/-- The lines of a text are the ones that reading gives. -/
theorem hasLines_iff (text : String) (lines : List (List Char)) :
    HasLines text.toList lines ↔ linesOf text = lines := by
  refine ⟨linesOfPieces_of_hasLines, ?_⟩
  rintro rfl
  have closed : ∀ piece ∈ text.toList.splitOn '\n', '\n' ∉ piece :=
    fun _ member => not_mem_of_mem_splitOn member
  have has := hasLines_linesOfPieces closed
  rwa [List.intercalate_splitOn] at has

/-! ### What tidying leaves -/

/-- No line holds a line feed. -/
theorem HasLines.closed {text : List Char} {lines : List (List Char)} (has : HasLines text lines) :
    ∀ line ∈ lines, '\n' ∉ line := by
  induction has with
  | none => simp
  | unended _ closed => simpa using closed
  | feed closed _ _ ih => simpa using ⟨closed, ih⟩
  | returnFeed closed _ ih => simpa using ⟨closed, ih⟩

theorem tidyLines_eq_rdropWhile (text : String) :
    tidyLines text = ((linesOf text).map (List.rdropWhile isBlank)).rdropWhile List.isEmpty := rfl

/-- The lines that tidying leaves need no tidying. -/
theorem neat_of_mem_tidyLines {text : String} {line : List Char} (member : line ∈ tidyLines text) :
    Neat (String.ofList line) := by
  have trimmed : line ∈ (linesOf text).map (List.rdropWhile isBlank) := by
    rw [tidyLines_eq_rdropWhile] at member
    exact (List.rdropWhile_prefix List.isEmpty _).subset member
  obtain ⟨whole, inText, rfl⟩ := List.mem_map.1 trimmed
  have closed : '\n' ∉ (String.ofList whole).toList := by
    rw [String.toList_ofList]
    exact ((hasLines_iff text _).2 rfl).closed whole inText
  have neat := neat_trimEnd closed
  rwa [trimEnd, String.toList_ofList] at neat

/-- The last line that tidying leaves is not empty. -/
theorem getLast?_tidyLines (text : String) : (tidyLines text).getLast? ≠ some [] := by
  intro last
  rw [tidyLines_eq_rdropWhile] at last
  obtain ⟨before, order⟩ := List.getLast?_eq_some_iff.1 last
  have some := List.rdropWhile_last_not List.isEmpty
    ((linesOf text).map (List.rdropWhile isBlank)) (by simp [order])
  simp [order] at some

/-- Tidying drops nothing but empty lines behind the ones that it leaves. -/
theorem exists_map_rdropWhile_eq (text : String) :
    ∃ count, (linesOf text).map (List.rdropWhile isBlank) =
      tidyLines text ++ List.replicate count [] := by
  rw [tidyLines_eq_rdropWhile]
  generalize (linesOf text).map (List.rdropWhile isBlank) = lines
  have dropped : ∀ line ∈ lines.rtakeWhile List.isEmpty, line = [] := by
    intro line member
    simpa using List.mem_rtakeWhile_imp member
  refine ⟨(lines.rtakeWhile List.isEmpty).length, ?_⟩
  rw [← List.eq_replicate_of_mem dropped, List.rdropWhile_append_rtakeWhile]

section

variable (text : String)

theorem neat_of_mem_map_tidyLines : ∀ line ∈ (tidyLines text).map String.ofList, Neat line := by
  intro line member
  obtain ⟨characters, left, rfl⟩ := List.mem_map.1 member
  exact neat_of_mem_tidyLines left

/-- A tidied text has the lines that tidying leaves. -/
theorem linesOf_tidy : linesOf (tidy text) = tidyLines text := by
  rw [tidy, linesOf_unlines_of_neat (neat_of_mem_map_tidyLines text), List.map_map]
  simp [Function.comp_def]

/-- Cutting a tidied text at its line feeds gives its lines, and nothing behind the last one. -/
theorem splitOn_tidy : (tidy text).toList.splitOn '\n' = tidyLines text ++ [[]] := by
  have closed : ∀ line ∈ (tidyLines text).map String.ofList, '\n' ∉ line.toList :=
    fun line member => (neat_of_mem_map_tidyLines text line member).1
  rw [tidy, splitOn_unlines, flatMap_splitOn_of_closed closed, List.map_map]
  simp [Function.comp_def]

/-- A tidied text that is not empty ends in a character that is not blank and a line feed. -/
theorem exists_tidy_eq (some : tidyLines text ≠ []) :
    ∃ before last, (tidy text).toList = before ++ [last, '\n'] ∧ isBlank last = false := by
  obtain ⟨lines, line, order⟩ : ∃ lines line, tidyLines text = lines ++ [line] :=
    ⟨_, _, (List.dropLast_concat_getLast some).symm⟩
  have nonempty : line ≠ [] := by
    rintro rfl
    exact getLast?_tidyLines text (by simp [order])
  have trimmed : line.rdropWhile isBlank = line := by
    have member : line ∈ tidyLines text := by simp [order]
    have neat := neat_of_mem_tidyLines member
    rw [Neat, String.toList_ofList] at neat
    exact neat.2
  obtain ⟨front, last, rfl⟩ : ∃ front last, line = front ++ [last] :=
    ⟨_, _, (List.dropLast_concat_getLast nonempty).symm⟩
  refine ⟨(unlines (lines.map String.ofList)).toList ++ front, last, ?_, ?_⟩
  · simp [tidy, order, unlines]
  · simpa using List.rdropWhile_eq_self_iff.1 trimmed nonempty

/-- Tidying a second time changes nothing. -/
theorem tidy_tidy : tidy (tidy text) = tidy text := by
  refine tidy_unlines (neat_of_mem_map_tidyLines text) ?_
  rw [List.getLast?_map]
  intro last
  obtain ⟨line, found, empty⟩ := Option.map_eq_some_iff.1 last
  have nothing : line = [] := by simpa using empty
  exact getLast?_tidyLines text (nothing ▸ found)

end

/-- What is said of a text that is another one tidied, and of the lines that are left in it. -/
structure IsTidied (text result : String) (left : List (List Char)) : Prop where
  /-- What is left are the lines of the text, each without the blanks that end it, but for empty ones
  at the end. -/
  trimmed : ∃ lines count, HasLines text.toList lines ∧
    lines.map (List.rdropWhile isBlank) = left ++ List.replicate count []
  /-- No empty one is left at the end. -/
  maximal : left.getLast? ≠ some []
  lines : HasLines result.toList left
  cut : result.toList.splitOn '\n' = left ++ [[]]
  empty : left = [] → result = ""
  ended : left ≠ [] → ∃ before last, result.toList = before ++ [last, '\n'] ∧ isBlank last = false

/-- Tidying removes the blanks at the end of each line and the empty lines at the end of the text, and
nothing else. What is left ends with one line feed, behind a character that is not blank, or is
empty. A tidied text stays as it is. -/
theorem tidy_trims_ends (text : String) :
    (∃ left, IsTidied text (tidy text) left) ∧ tidy (tidy text) = tidy text := by
  refine ⟨⟨tidyLines text, ?_⟩, tidy_tidy text⟩
  obtain ⟨count, dropped⟩ := exists_map_rdropWhile_eq text
  have nothing (none : tidyLines text = []) : tidy text = "" := by
    rw [tidy, none]
    rfl
  exact {
    trimmed := ⟨linesOf text, count, (hasLines_iff text _).2 rfl, dropped⟩
    maximal := getLast?_tidyLines text
    lines := (hasLines_iff (tidy text) _).2 (linesOf_tidy text)
    cut := splitOn_tidy text
    empty := nothing
    ended := exists_tidy_eq text }

/-- A carriage return stays within a line and goes at its end, with a line feed behind it or not. -/
example : tidy "a\rb \r\n\u3000\n\tc\t\r\n \n\r" = "a\rb\n\n\tc\n" := by decide

end MethodForge.Text
