import Mathlib.Algebra.BigOperators.Group.List.Basic
import Mathlib.Algebra.Order.Ring.Nat

/-! # Texts line by line

What is left of the lines of a text when they are told apart by line feeds alone. A text that was
put together from lines, with a line feed behind each, is cut not only between its lines but also
inside each line that has a line feed itself (`Text.lines_join`). So what is written as one line is
read as one more line than there are line feeds in it (`Text.length_pieces`), and as itself exactly
when there are none.
-/

namespace TrustRouter

/-! ### Splitting -/

section Splitting

variable {α : Type} [BEq α] {x : α}

/-- Every separator makes for one more piece. -/
theorem length_splitOn (l : List α) : (l.splitOn x).length = l.count x + 1 := by
  induction l with
  | nil => rfl
  | cons y l ih =>
    rw [List.splitOn_cons_eq_if_modifyHead, List.count_cons]
    split
    · rw [List.length_cons, ih]
    · rw [List.length_modifyHead, ih, Nat.add_zero]

variable [LawfulBEq α]

/-- Lines that each end in a separator are split one by one, and nothing is behind the last. -/
theorem splitOn_flatMap_concat_eq_flatMap (lines : List (List α)) :
    (lines.flatMap fun l ↦ l ++ [x]).splitOn x = lines.flatMap (·.splitOn x) ++ [[]] := by
  induction lines with
  | nil => rfl
  | cons l lines ih =>
    rw [List.flatMap_cons, List.append_assoc, List.singleton_append,
      List.splitOn_append_cons_self, ih, List.flatMap_cons, List.append_assoc]

/-- Lines that each end in a separator which none of them has can be told apart. -/
theorem splitOn_flatMap_concat {lines : List (List α)} (h : ∀ l ∈ lines, x ∉ l) :
    (lines.flatMap fun l ↦ l ++ [x]).splitOn x = lines ++ [[]] := by
  have hwhole : lines.flatMap (·.splitOn x) = lines.flatMap fun l ↦ [l] :=
    List.flatMap_congr fun l hl ↦ List.splitOn_eq_singleton (h l hl)
  rw [splitOn_flatMap_concat_eq_flatMap, hwhole, List.flatMap_singleton']

end Splitting

namespace Text

/-! ### Line feeds -/

/-- How many line feeds there are in a text. -/
def lineFeeds (s : String) : ℕ := s.toList.count '\n'

theorem lineFeeds_eq_zero_iff {s : String} : lineFeeds s = 0 ↔ '\n' ∉ s.toList :=
  List.count_eq_zero

@[simp]
theorem lineFeeds_append (s s' : String) : lineFeeds (s ++ s') = lineFeeds s + lineFeeds s' := by
  rw [lineFeeds, String.toList_append, List.count_append]
  rfl

/-- Texts in a row have the line feeds of each, if what is put between them has none. -/
theorem lineFeeds_intercalate {separator : String} (h : lineFeeds separator = 0)
    (texts : List String) :
    lineFeeds (separator.intercalate texts) = (texts.map lineFeeds).sum := by
  induction texts with
  | nil =>
    rw [String.intercalate_nil]
    rfl
  | cons s texts ih =>
    by_cases hlast : texts = []
    · rw [hlast, String.intercalate_singleton, List.map_singleton, List.sum_singleton]
    · rw [String.intercalate_cons_of_ne_nil hlast, lineFeeds_append, lineFeeds_append, h, ih,
        List.map_cons, List.sum_cons, Nat.add_zero]

/-- There is no line feed in the digits of a number. -/
theorem lineFeeds_toString (n : ℕ) : lineFeeds (toString n) = 0 := by
  rw [lineFeeds_eq_zero_iff]
  intro hmem
  have hdigit : '\n'.isDigit = true :=
    Nat.isDigit_of_mem_toDigits (b := 10) (n := n) (by decide) (by decide) (by simpa using hmem)
  exact absurd hdigit (by decide)

/-! ### Lines -/

/-- The pieces of a text between its line feeds. -/
def pieces (s : String) : List String := (s.toList.splitOn '\n').map String.ofList

/-- The lines of a text: its pieces, the last of which is no line if it is empty. -/
def lines (s : String) : List String :=
  if (pieces s).getLast? = some "" then (pieces s).dropLast else pieces s

theorem length_pieces (s : String) : (pieces s).length = lineFeeds s + 1 := by
  rw [pieces, List.length_map, length_splitOn, lineFeeds]

/-- A text without line feeds is in one piece. -/
theorem pieces_of_lineFeeds {s : String} (h : lineFeeds s = 0) : pieces s = [s] := by
  rw [pieces, List.splitOn_eq_singleton (lineFeeds_eq_zero_iff.1 h), List.map_singleton,
    String.ofList_toList]

/-- **What was written line by line is read piece by piece.** -/
theorem lines_join (written : List String) :
    lines (.join (written.map (· ++ "\n"))) = written.flatMap pieces := by
  have hchars : (String.join (written.map (· ++ "\n"))).toList =
      (written.map String.toList).flatMap fun l ↦ l ++ ['\n'] := by
    rw [String.toList_join, List.flatMap_map, List.flatMap_map]
    simp only [String.toList_append]
    rfl
  have hpieces : pieces (.join (written.map (· ++ "\n"))) = written.flatMap pieces ++ [""] := by
    rw [pieces, hchars, splitOn_flatMap_concat_eq_flatMap, List.map_append, List.map_flatMap,
      List.flatMap_map]
    rfl
  rw [lines, hpieces, List.getLast?_concat, if_pos rfl, List.dropLast_concat]

/-- Lines without line feeds are read as they were written. -/
theorem lines_join_of_lineFeeds {written : List String} (h : ∀ s ∈ written, lineFeeds s = 0) :
    lines (.join (written.map (· ++ "\n"))) = written := by
  have hwhole : written.flatMap pieces = written.flatMap fun s ↦ [s] :=
    List.flatMap_congr fun s hs ↦ pieces_of_lineFeeds (h s hs)
  rw [lines_join, hwhole, List.flatMap_singleton']

/-- Every line feed inside a line makes for one more line. -/
theorem length_lines_join (written : List String) :
    (lines (.join (written.map (· ++ "\n")))).length =
      written.length + (written.map lineFeeds).sum := by
  rw [lines_join, List.length_flatMap]
  simp only [length_pieces]
  rw [List.sum_map_add, List.map_const', List.sum_replicate_nat, Nat.mul_one, Nat.add_comm]

end Text

end TrustRouter
