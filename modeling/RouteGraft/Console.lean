import RouteGraft.Console.Emoji
import RouteGraft.Console.Rows

/-!
# The console

What is printed goes to the console line by line.  Characters that would move
the cursor are left out, and a tab is filled up with blanks to the next column
that is a multiple of eight.  Columns are counted in cells.

The console has a *width*, which is the number of cells in a row.  A line that
takes more cells than that is printed in several rows (`rowsOf`), and each row
ends with a line break.  The width is not up to the program: it is the one of the
terminal, the one that `COLUMNS` asks for, or 80 cells.  Without a width, lines
are as long as they are.
-/

namespace RouteGraft.Console

/-- Whether a character moves the cursor: bell, backspace, vertical tab, form
feed and carriage return. -/
def movesCursor (c : Char) : Bool :=
  c.toNat = 7 || c.toNat = 8 || c.toNat = 11 || c.toNat = 12 || c.toNat = 13

/-- How far apart the columns are that tabs lead to. -/
def tabWidth : Nat := 8

/-- A text that starts in a column, with its tabs filled up. -/
def expandTabs (column : Nat) : List Char → List Char
  | [] => []
  | c :: rest =>
      if c = '\t' then
        let width := tabWidth - column % tabWidth
        List.replicate width ' ' ++ expandTabs (column + width) rest
      else if c = '\n' then c :: expandTabs 0 rest
      else c :: expandTabs (column + cells c) rest

theorem not_mem_expandTabs (column : Nat) (cs : List Char) : '\t' ∉ expandTabs column cs := by
  induction cs generalizing column with
  | nil => simp [expandTabs]
  | cons c rest ih =>
      simp only [expandTabs]
      split
      · simp [ih, List.mem_replicate]
      next notTab =>
        split <;> simp [ih, Ne.symm notTab]

/-- The characters of a text that take their places on the console. -/
def laidOut (cs : List Char) : List Char := expandTabs 0 (cs.filter (!movesCursor ·))

/-- The rows of a text. -/
def rows (width : Option Nat) (cs : List Char) : List (List Char) :=
  (Text.split '\n' (laidOut cs)).flatMap (rowsOf width)

/-- A text as it is printed, with a line break behind every row. -/
def printed (width : Option Nat) (cs : List Char) : String :=
  String.ofList ((rows width cs).flatMap (· ++ ['\n']))

/-- A text without markup as it is printed. -/
def printedPlain (width : Option Nat) (s : String) : String :=
  printed width (Emoji.replace s.toList)

example : laidOut "ab\tc".toList = "ab      c".toList := by decide

end RouteGraft.Console
