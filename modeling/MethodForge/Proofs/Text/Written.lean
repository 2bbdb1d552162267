/-
Module: MethodForge.Proofs.Text.Written
Purpose: Tidied texts as what they are written from. A generated Go file is put together from lines,
  and a line comes out as several when a name in it holds a line feed. So a text is told by the lines
  that it is written from, whatever they hold; and where none of them holds a line feed, the lines of
  the text that start with a key are those of the list that do.
Main exports: piecesOf, IsWrittenFrom, isWrittenFrom_tidy, IsWrittenFrom.linesOf_eq,
  IsWrittenFrom.mem_of_neat, IsWrittenFrom.exists_of_mem, startingWith, startsWith,
  IsWrittenFrom.startingWith_eq
-/
import MethodForge.Proofs.Text.Tidy

namespace MethodForge.Text

/-- The lines of a tidied text that one line of a file becomes: one, if it holds no line feed. -/
def piecesOf (line : String) : List (List Char) :=
  (line.toList.splitOn '\n').map dropEndBlanks

/-- Whether a text has the lines that the given ones become, up to empty ones at the end. -/
def IsWrittenFrom (text : String) (lines : List String) : Prop :=
  ∃ count, lines.flatMap piecesOf = linesOf text ++ List.replicate count []

theorem piecesOf_of_closed {line : String} (closed : '\n' ∉ line.toList) :
    piecesOf line = [dropEndBlanks line.toList] := by
  rw [piecesOf, List.splitOn_eq_singleton closed, List.map_singleton]

theorem piecesOf_of_neat {line : String} (neat : Neat line) : piecesOf line = [line.toList] := by
  rw [piecesOf_of_closed neat.1, neat.2]

theorem flatMap_piecesOf_of_closed {lines : List String}
    (closed : ∀ line ∈ lines, '\n' ∉ line.toList) :
    lines.flatMap piecesOf = lines.map fun line => dropEndBlanks line.toList := by
  rw [List.map_eq_flatMap]
  exact List.flatMap_congr fun line member => piecesOf_of_closed (closed line member)

/-- What is put together from lines and tidied is written from them. -/
theorem isWrittenFrom_tidy (lines : List String) : IsWrittenFrom (tidy (unlines lines)) lines := by
  obtain ⟨count, dropped⟩ := exists_map_rdropWhile_eq (unlines lines)
  refine ⟨count, ?_⟩
  rw [linesOf_tidy, ← dropped, linesOf_unlines, List.map_map, List.map_flatMap]
  refine List.flatMap_congr fun line _ => List.map_congr_left fun piece _ => ?_
  exact (dropEndBlanks_dropReturn piece).symm

namespace IsWrittenFrom

variable {text : String} {lines : List String} (written : IsWrittenFrom text lines)
include written

/-- No line is lost if something stands on the last one. -/
theorem linesOf_eq {last : String} (ended : lines.getLast? = some last) (neat : Neat last)
    (nonempty : last ≠ "") : linesOf text = lines.flatMap piecesOf := by
  obtain ⟨count, same⟩ := written
  obtain ⟨before, rfl⟩ := List.getLast?_eq_some_iff.1 ended
  cases count with
  | zero => rw [same, List.replicate_zero, List.append_nil]
  | succ count =>
      have ends := congrArg List.getLast? same
      rw [List.flatMap_append, List.flatMap_singleton, piecesOf_of_neat neat, List.getLast?_concat,
        List.replicate_succ', ← List.append_assoc, List.getLast?_concat] at ends
      exact absurd (String.toList_eq_nil_iff.1 (Option.some.inj ends)) nonempty

/-- A neat line that is not empty is a line of the text. -/
theorem mem_of_neat {line : String} (member : line ∈ lines) (neat : Neat line)
    (nonempty : line ≠ "") : line.toList ∈ linesOf text := by
  obtain ⟨count, same⟩ := written
  have piece : line.toList ∈ lines.flatMap piecesOf := by
    refine List.mem_flatMap.2 ⟨line, member, ?_⟩
    rw [piecesOf_of_neat neat]
    exact List.mem_singleton_self _
  rw [same, List.mem_append] at piece
  rcases piece with inText | empty
  · exact inText
  · exact absurd (String.toList_eq_nil_iff.1 (List.eq_of_mem_replicate empty)) nonempty

variable (closed : ∀ line ∈ lines, '\n' ∉ line.toList)
include closed

/-- Each line of the text comes from one of the given ones, without the blanks that ended it. -/
theorem exists_of_mem {line : List Char} (member : line ∈ linesOf text) :
    ∃ source ∈ lines, line = dropEndBlanks source.toList := by
  obtain ⟨count, same⟩ := written
  have piece : line ∈ lines.flatMap piecesOf := by
    rw [same]
    exact List.mem_append_left _ member
  rw [flatMap_piecesOf_of_closed closed, List.mem_map] at piece
  obtain ⟨source, inLines, rfl⟩ := piece
  exact ⟨source, inLines, rfl⟩

end IsWrittenFrom

/-! ### Lines that start with a key -/

/-- The lines of a text that start with a key. -/
def startingWith (key : String) (lines : List (List Char)) : List (List Char) :=
  lines.filter fun line => decide (key.toList <+: line)

/-- Whether a line starts with a key. -/
def startsWith (key line : String) : Bool :=
  decide (key.toList <+: line.toList)

section

variable {key : String}

theorem startsWith_of_isPrefix {line : String} (starts : key.toList <+: line.toList) :
    startsWith key line = true :=
  decide_eq_true starts

theorem startsWith_append (key rest : String) : startsWith key (key ++ rest) = true := by
  rw [startsWith, String.toList_append]
  exact decide_eq_true (List.prefix_append _ _)

theorem filter_startsWith_eq_nil {lines : List String}
    (other : ∀ line ∈ lines, ¬ key.toList <+: line.toList) : lines.filter (startsWith key) = [] := by
  rw [List.filter_eq_nil_iff]
  exact fun line member starts => other line member (of_decide_eq_true starts)

theorem startingWith_append (first second : List (List Char)) :
    startingWith key (first ++ second) = startingWith key first ++ startingWith key second :=
  List.filter_append ..

theorem startingWith_cons_of_isPrefix {line : List Char} (starts : key.toList <+: line)
    (rest : List (List Char)) : startingWith key (line :: rest) = line :: startingWith key rest :=
  List.filter_cons_of_pos (decide_eq_true starts)

theorem startingWith_cons_of_not {line : List Char} (other : ¬ key.toList <+: line)
    (rest : List (List Char)) : startingWith key (line :: rest) = startingWith key rest :=
  List.filter_cons_of_neg (by simpa using other)

/-- Trimming the end of a line does not make it start with a key. -/
theorem prefix_of_prefix_dropEndBlanks {start line : List Char}
    (starts : start <+: dropEndBlanks line) : start <+: line :=
  starts.trans (List.rdropWhile_prefix isBlank line)

/-- Where no line holds a line feed, the lines of the text that start with a key are the given ones
that do, provided that those do not end in blanks. -/
theorem IsWrittenFrom.startingWith_eq {text : String} {lines : List String}
    (written : IsWrittenFrom text lines) (closed : ∀ line ∈ lines, '\n' ∉ line.toList)
    (some : key ≠ "") (neat : ∀ line ∈ lines.filter (startsWith key), Neat line) :
    startingWith key (linesOf text) = (lines.filter (startsWith key)).map String.toList := by
  obtain ⟨count, same⟩ := written
  have empty : startingWith key (List.replicate count []) = [] := by
    rw [startingWith, List.filter_eq_nil_iff]
    intro line member starts
    rw [List.eq_of_mem_replicate member, decide_eq_true_eq, List.prefix_nil] at starts
    exact some (String.toList_eq_nil_iff.1 starts)
  have whole : startingWith key (linesOf text) = startingWith key (lines.flatMap piecesOf) := by
    rw [same, startingWith_append, empty, List.append_nil]
  rw [whole, flatMap_piecesOf_of_closed closed]
  clear whole same closed
  induction lines with
  | nil => rfl
  | cons line rest ih =>
      rw [List.map_cons]
      by_cases starts : key.toList <+: line.toList
      · rw [List.filter_cons_of_pos (startsWith_of_isPrefix starts)] at neat ⊢
        rw [List.forall_mem_cons] at neat
        rw [neat.1.2, startingWith_cons_of_isPrefix starts, List.map_cons, ih neat.2]
      · have trimmed : ¬ key.toList <+: dropEndBlanks line.toList :=
          fun leads => starts (prefix_of_prefix_dropEndBlanks leads)
        have fails : ¬ startsWith key line = true := fun leads => starts (of_decide_eq_true leads)
        rw [List.filter_cons_of_neg fails] at neat ⊢
        rw [startingWith_cons_of_not trimmed, ih neat]

end

end MethodForge.Text
