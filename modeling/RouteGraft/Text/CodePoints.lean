/-!
# Tables of code points

A property of characters is a table of the code points that have it.  A table is
a text.  Its entries are separated by blanks and line breaks, and an entry is a
code point in hexadecimal, or the first and the last one of a row with a hyphen
in between.
-/

namespace RouteGraft.Text

/-- The entries of a table. -/
def entries (table : String) : List String :=
  ((table.splitOn "\n").flatMap (·.splitOn " ")).filter (· ≠ "")

/-- Code points in a row. -/
structure CodePoints where
  /-- The first one. -/
  first : Nat
  /-- The last one. -/
  last : Nat
  deriving DecidableEq, Repr

namespace CodePoints

/-- The value of a hexadecimal digit, which is a capital if it is a letter. -/
def digitValue (c : Char) : Nat :=
  if c.isDigit then c.toNat - '0'.toNat else c.toNat - 'A'.toNat + 10

/-- The number that hexadecimal digits stand for. -/
def ofHex (s : String) : Nat := s.toList.foldl (fun n c => n * 16 + digitValue c) 0

/-- An entry of a table. -/
def ofText (s : String) : CodePoints :=
  match s.splitOn "-" with
  | [first, last] => ⟨ofHex first, ofHex last⟩
  | _ => ⟨ofHex s, ofHex s⟩

/-- The entries of a table. -/
def table (s : String) : List CodePoints := (entries s).map ofText

/-- Whether a character is in one of some rows. -/
def has (rows : List CodePoints) (c : Char) : Bool :=
  rows.any fun row => row.first ≤ c.toNat && c.toNat ≤ row.last

end CodePoints

end RouteGraft.Text
