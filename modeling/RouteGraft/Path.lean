import RouteGraft.Text.Space
import RouteGraft.Text.Utf8

/-!
# Paths

A path is kept as its root and the names behind it.  Empty names and single
dots are dropped when a path is read, so `./a//b/` is the path `a/b` and the
empty path is the same as a dot.  Double dots are kept: where they lead is up
to the disk.

A path of exactly two slashes at the start keeps both of them, and more than two
count as one.
-/

namespace RouteGraft

/-- Where a path starts. -/
inductive Root where
  /-- At the working folder. -/
  | relative
  /-- At the root of the disk. -/
  | absolute
  /-- At the root of the disk, written with two slashes. -/
  | twoSlashes
  deriving DecidableEq, Repr

/-- The slashes of a root. -/
def Root.text : Root → String
  | .relative => ""
  | .absolute => "/"
  | .twoSlashes => "//"

/-- A path. -/
structure Path where
  /-- Where it starts. -/
  root : Root
  /-- The names on the way, in order. -/
  names : List String
  deriving DecidableEq, Repr

namespace Path

/-! ## Reading -/

/-- The root of a path, from how many slashes it has in front. -/
def rootOf (slashes : Nat) : Root :=
  if slashes = 0 then .relative else if slashes = 2 then .twoSlashes else .absolute

/-- Whether a part of a path is a name. -/
def isName (part : List Char) : Bool := part ≠ [] && part ≠ ['.']

/-- The path that a text stands for. -/
def ofText (s : String) : Path :=
  ⟨rootOf (s.toList.takeWhile (· = '/')).length,
    ((Text.split '/' s.toList).filter isName).map String.ofList⟩

/-! ## Writing -/

/-- The text of a path.  The path without names and root is a dot. -/
def text (p : Path) : String :=
  if p.root = .relative ∧ p.names = [] then "."
  else p.root.text ++ String.intercalate "/" p.names

/-- The number of UTF-8 bytes of a text. -/
def size (s : String) : Nat := (Utf8.encode s).length

/-- Whether a path has a NUL in it.  No disk can be asked for such a path. -/
def hasNul (p : Path) : Bool := p.names.any (·.toList.contains '\x00')

/-! ## The way up -/

/-- The double dot, which is the way to the folder above. -/
def up : String := ".."

/-- The path without its last name.  This is where the path leads before its
last name is looked up, which need not be the folder above where it ends. -/
def parent (p : Path) : Path := { p with names := p.names.dropLast }

/-! ## Examples -/

example : ofText "./a//b/" = ⟨.relative, ["a", "b"]⟩ := by decide +kernel
example : (ofText "").text = "." ∧ (ofText "//x/..").text = "//x/.." := by decide +kernel
example : ofText "///x" = ⟨.absolute, ["x"]⟩ := by decide +kernel

end Path

end RouteGraft
