import RouteGraft.Dart.Token

/-!
# From bytes to tokens

`tokens` cuts a source into tokens.  At each token it takes the longest one of
its class and goes on behind it.  Nothing is refused: a byte that starts no
token is a stray token of its own, and a string or a comment that is never
closed runs to the end.

A character of punctuation is a token of its own.  Words, numbers and comments
up to the end of the line need only a look ahead.  Strings and comments between
`/*` and `*/` nest: a comment may hold comments, and a string may hold, between
`${` and its brace, any expression with strings and braces of its own.
`enclosed` walks through such a text with the stack of the places it is in
(`Enclosure`) and stops when the stack is empty.

A string inside its quotes ends at the same quote, or at three of them.  A
backslash takes the next byte with it unless the string is raw.  A single-line
string that is not closed ends with its line.
-/

namespace RouteGraft.Dart

/-! ## Classes of bytes -/

/-- A blank between tokens. -/
def isBlank (b : UInt8) : Bool := b = 0x20 || (0x09 ≤ b && b ≤ 0x0D)

/-- A decimal digit. -/
def isDigitByte (b : UInt8) : Bool := 0x30 ≤ b && b ≤ 0x39

/-- A hexadecimal digit. -/
def isHexByte (b : UInt8) : Bool :=
  isDigitByte b || (0x41 ≤ b && b ≤ 0x46) || (0x61 ≤ b && b ≤ 0x66)

/-- A byte that starts a word: a letter, `_` or `$`. -/
def isWordStart (b : UInt8) : Bool :=
  (0x41 ≤ b && b ≤ 0x5A) || (0x61 ≤ b && b ≤ 0x7A) || b = 0x5F || b = 0x24

/-- A byte that goes on with a word. -/
def isWordPart (b : UInt8) : Bool := isWordStart b || isDigitByte b

/-- A quote, single or double. -/
def isQuote (b : UInt8) : Bool := b = 0x27 || b = 0x22

/-! ## Texts that nest -/

/-- A place that nests: inside quotes, inside the braces of an expression in a
string, or inside a comment. -/
inductive Enclosure where
  /-- Inside quotes, of which the text has three if it is `triple`. -/
  | quoted (quote : UInt8) (triple raw : Bool)
  /-- Inside the braces of an expression. -/
  | braces
  /-- Inside a comment up to the end of the line. -/
  | lineComment
  /-- Inside a comment between marks. -/
  | blockComment
  deriving DecidableEq, Repr

/-- Whether two more of a quote follow it. -/
def twoMore (quote : UInt8) : Bytes → Bool
  | a :: b :: _ => a = quote && b = quote
  | _ => false

/-- The inside of the quotes that start with `quote`, and how many bytes the
opening has. -/
def opening (quote : UInt8) (raw : Bool) (rest : Bytes) : Enclosure × Nat :=
  if twoMore quote rest then (.quoted quote true raw, 3) else (.quoted quote false raw, 1)

/-- One step inside quotes: the places after it, and how many bytes it takes.
`outside` are the places around the quotes. -/
def stepQuoted (quote : UInt8) (triple raw : Bool) (outside : List Enclosure) (b : UInt8)
    (rest : Bytes) : List Enclosure × Nat :=
  let here := Enclosure.quoted quote triple raw :: outside
  if b = quote then
    if triple then (if twoMore quote rest then (outside, 3) else (here, 1)) else (outside, 1)
  else if !triple && b = 0x0A then (outside, 1)
  else if raw then (here, 1)
  else if b = 0x5C then (here, 2)
  else if b = 0x24 && rest.head? = some 0x7B then (.braces :: here, 2)
  else (here, 1)

/-- One step inside braces.  `inWord` says that the byte before belongs to a
word, so that an `r` here starts no raw string. -/
def stepBraces (inWord : Bool) (outside : List Enclosure) (b : UInt8) (rest : Bytes) :
    List Enclosure × Nat :=
  let here := Enclosure.braces :: outside
  if b = 0x7B then (.braces :: here, 1)
  else if b = 0x7D then (outside, 1)
  else if isQuote b then
    let (inside, size) := opening b false rest
    (inside :: here, size)
  else if b = 0x2F && rest.head? = some 0x2F then (.lineComment :: here, 2)
  else if b = 0x2F && rest.head? = some 0x2A then (.blockComment :: here, 2)
  else if b = 0x72 && !inWord then
    match rest with
    | q :: more =>
        if isQuote q then
          let (inside, size) := opening q true more
          (inside :: here, size + 1)
        else (here, 1)
    | [] => (here, 1)
  else (here, 1)

/-- One step inside a comment between marks. -/
def stepComment (outside : List Enclosure) (b : UInt8) (rest : Bytes) : List Enclosure × Nat :=
  let here := Enclosure.blockComment :: outside
  if b = 0x2A && rest.head? = some 0x2F then (outside, 2)
  else if b = 0x2F && rest.head? = some 0x2A then (.blockComment :: here, 2)
  else (here, 1)

/-- One step inside the innermost of some places. -/
def stepEnclosed (inWord : Bool) (b : UInt8) (rest : Bytes) :
    List Enclosure → List Enclosure × Nat
  | [] => ([], 1)
  | .quoted quote triple raw :: outside => stepQuoted quote triple raw outside b rest
  | .braces :: outside => stepBraces inWord outside b rest
  | .lineComment :: outside => (if b = 0x0A then outside else .lineComment :: outside, 1)
  | .blockComment :: outside => stepComment outside b rest

/-- How many bytes it takes to leave all of some places.  `skip` counts the
bytes of the last step that are still to come. -/
def enclosed (places : List Enclosure) (inWord : Bool) (skip : Nat) : Bytes → Nat
  | [] => 0
  | b :: rest =>
      match skip with
      | skip + 1 => 1 + enclosed places (isWordPart b) skip rest
      | 0 =>
          match places with
          | [] => 0
          | _ =>
              let (places, size) := stepEnclosed inWord b rest places
              1 + enclosed places (isWordPart b) (size - 1) rest
termination_by structural bytes => bytes

/-! ## Numbers -/

/-- The length of the digits at the start of a text.  Single digits may be
separated by `_`, which does not end a number. -/
def digitsLength (isDigit : UInt8 → Bool) (bytes : Bytes) : Nat :=
  ((bytes.takeWhile fun b => isDigit b || b = 0x5F).reverse.dropWhile (· = 0x5F)).length

/-- The length of the exponent at the start of a text, or nothing. -/
def exponentLength : Bytes → Nat
  | e :: rest =>
      if e = 0x65 || e = 0x45 then
        let sign := if rest.head?.any (fun b => b = 0x2B || b = 0x2D) then 1 else 0
        let digits := rest.drop sign
        if digits.head?.any isDigitByte then 1 + sign + digitsLength isDigitByte digits else 0
      else 0
  | [] => 0

/-- The length of the fraction at the start of a text, or nothing. -/
def fractionLength : Bytes → Nat
  | point :: rest =>
      if point = 0x2E && rest.head?.any isDigitByte then 1 + digitsLength isDigitByte rest else 0
  | [] => 0

/-- The number at the start of a text. -/
def number (bytes : Bytes) : Lexeme × Nat :=
  match bytes with
  | 0x30 :: x :: digit :: rest =>
      if (x = 0x78 || x = 0x58) && isHexByte digit then
        (.number .hex, 2 + digitsLength isHexByte (digit :: rest))
      else plain
  | _ => plain
where
  /-- A number that is not hexadecimal. -/
  plain : Lexeme × Nat :=
    let whole := digitsLength isDigitByte bytes
    let fraction := fractionLength (bytes.drop whole)
    let exponent := exponentLength (bytes.drop (whole + fraction))
    if fraction + exponent = 0 then (.number .decimal, whole)
    else (.number .floating, whole + fraction + exponent)

/-! ## Tokens -/

/-- The characters of punctuation. -/
def signs : List Char :=
  ['(', ')', '[', ']', '{', '}', ',', ';', ':', '.', '?', '=', '<', '>', '+', '-', '*', '/', '%',
   '!', '~', '&', '|', '^', '@', '#']

/-- The sign that a byte is. -/
def sign (b : UInt8) : Lexeme :=
  match signs.find? (·.toNat = b.toNat) with
  | some c => .sign c
  | none => .stray

/-- The comment behind a slash, if it is one. -/
def comment? (rest : Bytes) : Option (Lexeme × Nat) :=
  match rest with
  | 0x2F :: more =>
      some (.comment (more.head? = some 0x2F), 2 + (more.takeWhile (· ≠ 0x0A)).length)
  | 0x2A :: more =>
      some (.comment (more.head? = some 0x2A), 2 + enclosed [.blockComment] false 0 more)
  | _ => none

/-- The string behind its first quote. -/
def text (quote : UInt8) (raw : Bool) (rest : Bytes) : Lexeme × Nat :=
  let (inside, size) := opening quote raw rest
  (.text, size + enclosed [inside] false 0 (rest.drop (size - 1)))

/-- The word at the start of a text. -/
def word (b : UInt8) (rest : Bytes) : Lexeme × Nat :=
  let letters := b :: rest.takeWhile isWordPart
  (.word (Terminal.ofWord? letters), letters.length)

/-- The token at the start of a text and the number of its bytes.  `dots` is how
many dots in a row stand right in front.  Three of them are a sign of their own,
and what is behind one or two cannot be a number that starts with a point. -/
def lexeme (dots : Nat) (b : UInt8) (rest : Bytes) : Lexeme × Nat :=
  if isWordStart b then
    match rest with
    | q :: more =>
        if b = 0x72 && isQuote q then
          let (l, size) := text q true more
          (l, size + 1)
        else word b rest
    | [] => word b rest
  else if isDigitByte b || (b = 0x2E && dots % 3 = 0 && rest.head?.any isDigitByte) then
    number (b :: rest)
  else if isQuote b then text b false rest
  else if b = 0x2F then (comment? rest).getD (sign b, 1)
  else (sign b, 1)

/-- The tokens of a text that starts at `offset`.  `skip` counts the bytes of
the last token that are still to come, `glued` says that nothing stands between
that token and this place, and `dots` is how many dots in a row it ends. -/
def tokensFrom (offset skip : Nat) (glued : Bool) (dots : Nat) : Bytes → List Token
  | [] => []
  | b :: rest =>
      match skip with
      | skip + 1 => tokensFrom (offset + 1) skip glued dots rest
      | 0 =>
          if isBlank b then tokensFrom (offset + 1) 0 false 0 rest
          else
            let (l, size) := lexeme dots b rest
            let dots := if l = .sign '.' then dots + 1 else 0
            ⟨l, offset, offset + size, glued⟩
              :: tokensFrom (offset + 1) (size - 1) true dots rest
termination_by structural bytes => bytes

/-- The first line of a source that tells the system which program runs it. -/
def scriptLine (source : Bytes) : Nat :=
  match source with
  | 0x23 :: 0x21 :: rest => 2 + (rest.takeWhile (· ≠ 0x0A)).length
  | _ => 0

/-- The tokens of a source.  A mark of byte order in front is skipped, and a
line for the system counts as a comment. -/
def tokens (source : Bytes) : List Token :=
  match source with
  | 0xEF :: 0xBB :: 0xBF :: rest => tokensFrom 3 0 false 0 rest
  | _ =>
      match scriptLine source with
      | 0 => tokensFrom 0 0 false 0 source
      | n => ⟨.comment false, 0, n, false⟩ :: tokensFrom n 0 false 0 (source.drop n)

end RouteGraft.Dart
