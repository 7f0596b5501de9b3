import RouteGraft.Console.Cells
import RouteGraft.Text.Space

/-!
# Rows

A console shows a line of a text in *rows*, which have only so many cells.  A line that takes
more cells goes on in the next row.

Rows break between words.  A word goes to the next row if it does not fit behind those in
front of it, where the space behind it does not count.  A word that fits in no row is cut into
pieces, each of them as long as a row can hold.

The space at the end of a row that is beyond it is dropped.  What is left may still take too
many cells, because a character takes two of them and the row has one, or because space can
take two as well.  Then the row is cut off, and a character of which only half is left makes
room for a blank.
-/

namespace RouteGraft.Console

open Text

/-! ## Breaks -/

/-- The pieces that a word is cut into, behind a piece that is begun: those that are full, and
the last one. -/
def fold (width : Nat) (piece : List Char) : List Char → List (List Char) × List Char
  | [] => ([], piece)
  | c :: rest =>
      if cellsOf piece + cells c ≤ width then fold width (piece ++ [c]) rest
      else
        let (pieces, last) := fold width [c] rest
        (piece :: pieces, last)
termination_by structural cs => cs

/-- The rows of some words, behind a row that is begun. -/
def rowsFrom (width : Nat) (row : List Char) : List (List Char) → List (List Char)
  | [] => [row]
  | w :: ws =>
      if cellsOf row + cellsOf (trimEnd w) ≤ width then rowsFrom width (row ++ w) ws
      else if cellsOf (trimEnd w) ≤ width then row :: rowsFrom width w ws
      else
        let (pieces, last) := fold width [] w
        -- nothing is in front of the first word, not even an empty row
        (if row = [] then pieces.filter (· ≠ []) else row :: pieces) ++ rowsFrom width last ws
termination_by structural ws => ws

/-- Where the rows of a line break. -/
def breakRows (width : Nat) (line : List Char) : List (List Char) :=
  match spacedWords line with
  | (_, []) => [line]
  | (space, w :: ws) => rowsFrom width [] ((space ++ w) :: ws)

/-! ## Ends -/

/-- A row without the space at its end that is beyond so many characters. -/
def dropExcess (width : Nat) (row : List Char) : List Char :=
  row.take (max width (trimEnd row).length)

/-- A row that takes too many cells, cut off by bisection: the cut is between two places. -/
def cutBetween (width : Nat) (row : List Char) (start stop : Nat) : List Char :=
  let middle := (start + stop) / 2
  let front := row.take (middle + 1)
  if cellsOf front = width + 1 ∧ front.getLast?.any (cells · = 2) then front.dropLast ++ [' ']
  else if cellsOf front = width then front
  else if width < cellsOf front then
    if middle < stop then cutBetween width row start middle else []
  else if start < middle then cutBetween width row middle stop
  else front
termination_by stop - start

/-- A row that is cut off if it takes too many cells. -/
def cut (width : Nat) (row : List Char) : List Char :=
  if cellsOf row ≤ width then row else cutBetween width row 0 row.length

/-! ## Lines -/

/-- The rows of a line on a console whose rows have some number of cells, or any.  Rows without
cells show nothing, and there are none. -/
def rowsOf (width : Option Nat) (line : List Char) : List (List Char) :=
  match width with
  | none => [line]
  | some 0 => []
  | some width => (breakRows width line).map fun row => cut width (dropExcess width row)

example : rowsOf (some 8) "one two  three".toList = ["one two ".toList, "three".toList] := by decide
example : rowsOf (some 4) " ab cdefghi ".toList
    = [" ab ".toList, "cdef".toList, "ghi ".toList] := by decide

end RouteGraft.Console
