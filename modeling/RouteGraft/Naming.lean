/-!
# Words of a route name

A route is named in capitals and small letters, `UserProfile`, and its address
in the application is the same words in small letters with hyphens between
them, `user-profile`.

Only ASCII letters and digits belong to words; every other character separates
them.  Inside a run of letters and digits a word ends in three places.

* A small letter or digit is followed by a capital: `user|Profile`.
* A capital is followed by another that a small letter follows: the second one
  starts a word of its own, `HTTP|Server`.
* A capital that has a capital before it is followed by a digit: `HTTP|2`.  A
  capital with nothing or a small letter before it keeps the digit: `A1`.

`endsWord` is this rule, `words` cuts a text by it, and `kebab` joins the
words again.
-/

namespace RouteGraft.Naming

/-! ## Characters of words -/

/-- An ASCII capital. -/
def isCapital (c : Char) : Bool := 'A' ≤ c && c ≤ 'Z'

/-- An ASCII small letter. -/
def isSmallLetter (c : Char) : Bool := 'a' ≤ c && c ≤ 'z'

/-- An ASCII digit. -/
def isDigit (c : Char) : Bool := '0' ≤ c && c ≤ '9'

/-- A small letter or a digit. -/
def isSmall (c : Char) : Bool := isSmallLetter c || isDigit c

/-- A character that belongs to a word. -/
def isWordChar (c : Char) : Bool := isCapital c || isSmall c

/-! ## Where words end -/

/-- Whether a word ends after its character `c`, which has `before` in front of
it and `after` behind it. -/
def endsWord (before : Option Char) (c : Char) (after : List Char) : Bool :=
  match after with
  | [] => true
  | d :: more =>
      if !isWordChar d then true
      else if isSmall c then isCapital d
      else if isCapital d then more.head?.any isSmallLetter
      else isDigit d && before.any isCapital

/-- The words of a text that has `before` in front of it. -/
def wordsAfter (before : Option Char) : List Char → List (List Char)
  | [] => []
  | c :: rest =>
      let later := wordsAfter (some c) rest
      if !isWordChar c then later
      else if endsWord before c rest then [c] :: later
      else
        match later with
        | [] => [[c]]
        | w :: ws => (c :: w) :: ws
termination_by structural cs => cs

/-- The words of a text, in order. -/
def words (raw : String) : List String :=
  (wordsAfter none raw.toList).map String.ofList

/-! ## The hyphenated form -/

/-- The small form of a character of a word. -/
def lower (c : Char) : Char := if isCapital c then Char.ofNat (c.toNat + 32) else c

/-- Texts joined by hyphens. -/
def hyphenate : List (List Char) → List Char
  | [] => []
  | [w] => w
  | w :: v :: ws => w ++ '-' :: hyphenate (v :: ws)
termination_by structural ws => ws

/-- The address form of a name: its words in small letters, joined by hyphens. -/
def kebab (raw : String) : String :=
  String.ofList (hyphenate ((wordsAfter none raw.toList).map (·.map lower)))

/-! ## Examples -/

example : wordsAfter none "HTTPServer2Go".toList
    = ["HTTP".toList, "Server2".toList, "Go".toList] := by decide
example : wordsAfter none "AB1 a1B".toList
    = ["AB".toList, "1".toList, "a1".toList, "B".toList] := by decide

end RouteGraft.Naming
