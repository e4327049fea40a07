import Mathlib.Data.List.Basic
import PocketCalculator.CommandLine.Lines

/-!
# PocketCalculator — how lines make up an input

An input is its lines with their endings, and it can be divided in one way only: at every
line feed, where a carriage return in front of the line feed belongs to the ending.

* `CommandLine.lines_append_cons` — the first line of an input with a line feed.
* `CommandLine.divided_iff` — the one division of an input.
-/

namespace PocketCalculator.CommandLine

/-- Whether lines with their endings make up an input. A line ends with a line feed (10),
or with a carriage return (13) and a line feed; the last one may also end with the
input. -/
inductive Divided : List UInt8 → List (List UInt8) → Prop
  | nil : Divided [] []
  | last {line : List UInt8} (nonempty : line ≠ []) (whole : 10 ∉ line) : Divided line [line]
  | lineFeed {line rest : List UInt8} {ls : List (List UInt8)} (whole : 10 ∉ line)
      (bare : line.getLast? ≠ some 13) (more : Divided rest ls) :
      Divided (line ++ 10 :: rest) (line :: ls)
  | returnLineFeed {line rest : List UInt8} {ls : List (List UInt8)} (whole : 10 ∉ line)
      (more : Divided rest ls) : Divided (line ++ [13] ++ 10 :: rest) (line :: ls)

/-- Without a carriage return at its end a line stays as it is. -/
theorem dropReturn_of_ne {line : List UInt8} (h : line.getLast? ≠ some 13) :
    dropReturn line = line :=
  if_neg h

theorem dropReturn_append (line : List UInt8) : dropReturn (line ++ [13]) = line := by
  rw [dropReturn, if_pos List.getLast?_concat, List.dropLast_concat]

/-- The first line feed ends the first line, and the rest of the input is divided as if it stood
alone. -/
theorem lines_append_cons {front : List UInt8} (h : 10 ∉ front) (rest : List UInt8) :
    lines (front ++ 10 :: rest) = dropReturn front :: lines rest := by
  have hPieces := List.splitOn_ne_nil (10 : UInt8) rest
  rw [lines, lines, List.splitOn_append_cons_self_of_not_mem h,
    List.dropLast_cons_of_ne_nil hPieces, List.map_cons, List.getLast?_cons_of_ne_nil hPieces]
  rfl

/-- Without a line feed an input is one line, or none if it is empty. -/
theorem lines_of_notMem {input : List UInt8} (h : 10 ∉ input) :
    lines input = if input = [] then [] else [input] := by
  rw [lines, List.splitOn_eq_singleton h]
  by_cases hEmpty : input = [] <;> simp [hEmpty]

/-- However an input is divided, the parts are its lines. -/
theorem Divided.lines_eq {input : List UInt8} {ls : List (List UInt8)} (h : Divided input ls) :
    lines input = ls := by
  induction h with
  | nil => exact lines_of_notMem (by simp)
  | last nonempty whole => rw [lines_of_notMem whole, if_neg nonempty]
  | lineFeed whole bare more ih => rw [lines_append_cons whole, dropReturn_of_ne bare, ih]
  | returnLineFeed whole more ih =>
    rw [lines_append_cons (by simpa using whole), dropReturn_append, ih]

/-- Every input is divided into its lines. -/
theorem divided_lines (input : List UInt8) : Divided input (lines input) := by
  -- by the length of the input: up to its first line feed it is one line
  by_cases hFeed : 10 ∈ input
  · obtain ⟨front, rest, hSplit, hFront⟩ := List.eq_append_cons_of_mem hFeed
    have hRest := divided_lines rest
    rw [hSplit, lines_append_cons hFront]
    -- the carriage return belongs to the ending
    by_cases hReturn : front.getLast? = some 13
    · obtain ⟨line, rfl⟩ := List.getLast?_eq_some_iff.mp hReturn
      rw [dropReturn_append]
      exact .returnLineFeed (by simpa using hFront) hRest
    · rw [dropReturn_of_ne hReturn]
      exact .lineFeed hFront hReturn hRest
  · rw [lines_of_notMem hFeed]
    split
    · rename_i hEmpty
      rw [hEmpty]
      exact .nil
    · rename_i hEmpty
      exact .last hEmpty hFeed
termination_by input.length
decreasing_by
  rw [hSplit, List.length_append, List.length_cons]
  omega

/-- The lines of an input are what it divides into, in the one way there is. -/
theorem divided_iff (input : List UInt8) (ls : List (List UInt8)) :
    Divided input ls ↔ ls = lines input :=
  ⟨fun h => h.lines_eq.symm, fun h => h ▸ divided_lines input⟩

end PocketCalculator.CommandLine
