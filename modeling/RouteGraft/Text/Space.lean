/-!
# Space

Space is what separates words: the blank, tab and line breaks, the four
separators of ASCII, and the blanks of other scripts.
-/

namespace RouteGraft.Text

/-- Whether a character is space. -/
def isSpace (c : Char) : Bool :=
  (0x09 ≤ c.toNat && c.toNat ≤ 0x0D) || (0x1C ≤ c.toNat && c.toNat ≤ 0x20)
    || c.toNat = 0x85 || c.toNat = 0xA0 || c.toNat = 0x1680
    || (0x2000 ≤ c.toNat && c.toNat ≤ 0x200A) || c.toNat = 0x2028 || c.toNat = 0x2029
    || c.toNat = 0x202F || c.toNat = 0x205F || c.toNat = 0x3000

/-- A text without the space at its end. -/
def trimEnd (cs : List Char) : List Char := (cs.reverse.dropWhile isSpace).reverse

/-- A text without the space at its ends. -/
def trim (cs : List Char) : List Char := trimEnd (cs.dropWhile isSpace)

/-- The words of a text, which space separates. -/
def words : List Char → List (List Char)
  | [] => []
  | c :: rest =>
      if isSpace c then words rest
      else if rest.head?.all isSpace then [c] :: words rest
      else
        match words rest with
        | [] => [[c]]
        | w :: ws => (c :: w) :: ws
termination_by structural cs => cs

/-- The space in front of the words of a text, and its words with the space behind them. -/
def spacedWords : List Char → List Char × List (List Char)
  | [] => ([], [])
  | c :: rest =>
      let (space, ws) := spacedWords rest
      if isSpace c then (c :: space, ws)
      else
        match space, ws with
        | [], w :: ws => ([], (c :: w) :: ws)
        | space, ws => ([], (c :: space) :: ws)
termination_by structural cs => cs

/-- The parts of a text between separators. -/
def split (separator : Char) : List Char → List (List Char)
  | [] => [[]]
  | c :: rest =>
      if c = separator then [] :: split separator rest
      else
        match split separator rest with
        | [] => [[c]]
        | part :: parts => (c :: part) :: parts
termination_by structural cs => cs

example : words "not  bold ".toList = ["not".toList, "bold".toList] := by decide
example : spacedWords "  a bc  ".toList = ("  ".toList, ["a ".toList, "bc  ".toList]) := by decide
example : trim [' ', 'a', ' ', 'b', '\t'] = ['a', ' ', 'b'] := by decide

end RouteGraft.Text
