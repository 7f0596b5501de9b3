import RouteGraft.Console.Literal.Fault
import RouteGraft.Text.Letters

/-!
# Tokens of literals

A literal is cut into numbers, texts in quotes, words and signs.  What goes on a
line behind `#` is left out, and so is a line break in brackets or behind a
backslash.  Any other line break ends a line, and a line that starts with a
blank says so.

The tokens may end in a fault (`BadEnd`).  A character that is in no token, a
text that is not closed and a closing bracket without its opening one are told
wherever they are.  A bracket that is open at the end, or a backslash that does
not end a line, mostly matter to a reader that gets there.
-/

namespace RouteGraft.Console.Literal

/-! ## Tokens -/

/-- The tokens of an expression. -/
inductive Token where
  /-- A number, which may be imaginary or too long. -/
  | number (imaginary : Bool) (fault : Option Fault)
  /-- A text in quotes.  A *formatted* one has expressions in it. -/
  | text (bytes formatted : Bool) (fault : Option Fault)
  /-- `True`, `False` or `None`. -/
  | constant (word : String)
  /-- Three dots. -/
  | dots
  | name (word : String)
  /-- A sign, or a word that is no name. -/
  | sign (s : String)
  /-- The end of a line. -/
  | lineEnd
  /-- The blanks in front of a line. -/
  | indent
  /-- The end of all. -/
  | ending
  deriving DecidableEq, Repr

/-- A token and the text behind it, or what is wrong with it. -/
abbrev Scanned := Except Fault (Token × List Char)

/-! ### Numbers -/

/-- The text behind the rest of some digits, single ones of which may be
separated by an underscore. -/
def digits (isDigit : Char → Bool) (broken : List Char → Fault) :
    List Char → Except Fault (List Char)
  | [] => .ok []
  | c :: rest =>
      if isDigit c then digits isDigit broken rest
      else if c = '_' then
        match rest with
        | [] => .error (broken [])
        | d :: rest =>
            if isDigit d then digits isDigit broken rest else .error (broken (d :: rest))
      else .ok (c :: rest)
termination_by structural cs => cs

/-- Whether a character of ASCII goes on with a word. -/
def isAsciiName (c : Char) : Bool := c.isAlphanum || c = '_'

/-- Whether a character goes on with a word. -/
def goesOn (c : Char) : Bool := isAsciiName c || 0x80 ≤ c.toNat

/-- The words that may follow a number directly. -/
def wordsBehindNumber : List String := ["and", "else", "for", "not", "or"]

/-- Whether an operator that is a word follows. -/
def wordFollows (rest : List Char) : Bool :=
  ["if", "in", "is"].any (·.toList.isPrefixOf rest)
    || wordsBehindNumber.contains (String.ofList (rest.takeWhile goesOn))

/-- The end of a number, which no other word follows directly. -/
def numberEnd (kind : String) (t : Token) (rest : List Char) : Scanned :=
  if rest.head?.any isAsciiName && !wordFollows rest then .error (.brokenNumber kind)
  else .ok (t, rest)

/-- What is wrong with a number that lacks a digit in front of a text. -/
def lacksDigit (kind : String) (rest : List Char) : Fault :=
  match rest with
  | d :: _ => if d.isDigit then .largeDigit d kind else .brokenNumber kind
  | [] => .brokenNumber kind

/-- The number behind the mark of its base. -/
def basedNumber (kind : String) (isDigit : Char → Bool) (rest : List Char) : Scanned :=
  match if rest.head? = some '_' then rest.drop 1 else rest with
  | d :: more =>
      if isDigit d then
        match digits isDigit (lacksDigit kind) more with
        | .ok rest =>
            if rest.head?.any Char.isDigit then .error (lacksDigit kind rest)
            else numberEnd kind (.number false none) rest
        | .error e => .error e
      else .error (lacksDigit kind (d :: more))
  | [] => .error (.brokenNumber kind)

/-- The kind of decimal numbers. -/
def decimal : String := "decimal"

/-- The rest of decimal digits. -/
def decimalDigits (cs : List Char) : Except Fault (List Char) :=
  digits Char.isDigit (fun _ => .brokenNumber decimal) cs

/-- The text behind a fraction, if there is one. -/
def fraction (cs : List Char) : Except Fault (List Char) :=
  match cs with
  | '.' :: d :: rest => if d.isDigit then decimalDigits rest else .ok (d :: rest)
  | ['.'] => .ok []
  | cs => .ok cs

/-- The text behind an exponent, if there is one. -/
def exponent (cs : List Char) : Except Fault (List Char) :=
  match cs with
  | e :: rest =>
      if (e = 'e' || e = 'E') && !wordFollows cs then
        let signed := rest.head?.any fun c => c = '+' || c = '-'
        match if signed then rest.drop 1 else rest with
        | d :: more => if d.isDigit then decimalDigits more else .error (.brokenNumber decimal)
        | [] => .error (.brokenNumber decimal)
      else .ok cs
  | [] => .ok []

/-- A whole number. -/
def wholeNumber (written : List Char) : Token :=
  let count := written.countP Char.isDigit
  .number false (if count > digitLimit then some (.longNumber count) else none)

/-- A decimal number with its fraction and its exponent. -/
def decimalNumber (cs : List Char) : Scanned := do
  let behindWhole ← if cs.head? = some '.' then pure cs else decimalDigits cs
  let rest ← exponent (← fraction behindWhole)
  let written := cs.take (cs.length - rest.length)
  if rest.head?.any fun c => c = 'j' || c = 'J' then
    numberEnd "imaginary" (.number true none) (rest.drop 1)
  else if rest.length ≠ behindWhole.length then numberEnd decimal (.number false none) rest
  else if cs.head? = some '0' && written.any (fun c => c ≠ '0' && c ≠ '_') then
    throw .leadingZeros
  else numberEnd decimal (wholeNumber written) rest

/-- A number. -/
def number (cs : List Char) : Scanned :=
  match cs with
  | '0' :: mark :: rest =>
      match mark.toLower with
      | 'x' => basedNumber "hexadecimal"
          (fun c => c.isDigit || ('a' ≤ c.toLower && c.toLower ≤ 'f')) rest
      | 'o' => basedNumber "octal" (fun c => '0' ≤ c && c ≤ '7') rest
      | 'b' => basedNumber "binary" (fun c => c = '0' || c = '1') rest
      | _ => decimalNumber cs
  | _ => decimalNumber cs

/-! ### Texts -/

/-- The text behind the closing quotes, if they come.  A backslash takes the
next character with it. -/
def closing? (quote : Char) (triple : Bool) : List Char → Option (List Char)
  | [] => none
  | '\\' :: _ :: rest => closing? quote triple rest
  | c :: rest =>
      if c = quote then
        if !triple then some rest
        else if rest.take 2 = [quote, quote] then some (rest.drop 2)
        else closing? quote triple rest
      else if c = '\n' && !triple then none
      else closing? quote triple rest
termination_by structural cs => cs

/-- How many lines a text goes on for that its quotes do not close. -/
def openLines (triple : Bool) : List Char → Nat
  | [] => 0
  | '\\' :: c :: rest => (if c = '\n' then 1 else 0) + openLines triple rest
  | c :: rest =>
      if c ≠ '\n' then openLines triple rest
      else if triple then 1 + openLines triple rest
      else 0
termination_by structural cs => cs

/-- The letter, the number of digits and the wording of an escape that gives a
code point. -/
def codePointEscapes : List (Char × Nat × String) :=
  [('x', 2, "truncated \\xXX escape"), ('u', 4, "truncated \\uXXXX escape"),
    ('U', 8, "truncated \\UXXXXXXXX escape")]

/-- The value of a hexadecimal digit. -/
def hexValue? (c : Char) : Option Nat :=
  if c.isDigit then some (c.toNat - '0'.toNat)
  else if 'a' ≤ c.toLower && c.toLower ≤ 'f' then some (c.toLower.toNat - 'a'.toNat + 10)
  else none

/-- What is wrong with an escape, behind its letter. -/
def escapeFault? (place : Nat) (letter : Char) (rest : List Char) : Option Fault :=
  match codePointEscapes.find? (·.1 = letter) with
  | some (_, count, reason) =>
      let given := (rest.take count).takeWhile fun c => (hexValue? c).isSome
      if given.length < count then some (.escape place (place + 1 + given.length) reason)
      else if (given.filterMap hexValue?).foldl (· * 16 + ·) 0 > 0x10ffff then
        some (.escape place (place + 1 + count) "illegal Unicode character")
      else none
  | none =>
      if letter ≠ 'N' then none
      else
        let malformed (length : Nat) : Option Fault :=
          some (.escape place (place + 1 + length) "malformed \\N character escape")
        match rest with
        | '\x7b' :: inside =>
            let name := inside.takeWhile (· ≠ '\x7d')
            if name.length = inside.length || name = [] then malformed (1 + name.length) else none
        | _ => malformed 0

/-- How much room a character takes up where escapes are counted. -/
def escapeWidth (c : Char) : Nat := if c.toNat < 0x80 then 1 else 10

/-- The first escape in a text that is not right. -/
def textFault? (place : Nat) : List Char → Option Fault
  | [] => none
  | '\\' :: c :: rest =>
      match escapeFault? place c rest with
      | some e => some e
      | none =>
          textFault? (place + (if c.toNat < 0x80 then 1 else 6) + escapeWidth c) rest
  | c :: rest => textFault? (place + escapeWidth c) rest
termination_by structural cs => cs

/-- The first escape in a text of bytes that is not right. -/
def bytesFault? (place : Nat) : List Char → Option Fault
  | [] => none
  | '\\' :: c :: rest =>
      if c = 'x' && !((rest.take 2).length = 2 && (rest.take 2).all fun c => (hexValue? c).isSome)
      then some (.byteEscape place)
      else bytesFault? (place + 2) rest
  | _ :: rest => bytesFault? (place + 1) rest
termination_by structural cs => cs

/-- A text in quotes, with the letters in front of its quotes. -/
def quoted (letters inside : List Char) : Token :=
  let has (c : Char) := letters.any (·.toLower = c)
  let fault :=
    if has 'b' && inside.any (0x80 ≤ ·.toNat) then some .noByte
    else if has 'r' then none
    else if has 'b' then bytesFault? 0 inside
    else textFault? 0 inside
  .text (has 'b') (has 'f') fault

/-- A text behind its first quote, in the line `line`. -/
def quotedText (line : Nat) (quote : Char) (letters rest : List Char) : Scanned :=
  let triple := rest.take 2 = [quote, quote]
  let width := if triple then 3 else 1
  let inside := rest.drop (width - 1)
  match closing? quote triple inside with
  | some behind =>
      .ok (quoted letters (inside.take (inside.length - behind.length - width)), behind)
  | none => .error (.unterminated triple (line + openLines triple inside))

/-- Whether letters may stand in front of a quote. -/
def marksText (letters : List Char) : Bool :=
  ["b", "r", "u", "f", "br", "rb", "fr", "rf"].contains
    (String.ofList (letters.map Char.toLower))

/-! ### Words and signs -/

/-- The words that are no names. -/
def reservedWords : List String :=
  ["and", "or", "not", "in", "is", "if", "else", "for", "lambda", "await", "yield", "as",
    "assert", "async", "break", "class", "continue", "def", "del", "elif", "except", "finally",
    "from", "global", "import", "nonlocal", "pass", "raise", "return", "try", "while", "with"]

/-- The words that stand for a value. -/
def constantWords : List String := ["True", "False", "None"]

/-- A word. -/
def wordToken (w : List Char) : Except Fault Token :=
  match w.find? (!Text.isNameChar ·) with
  | some c => .error (.strangeCharacter c)
  | none =>
      let s := String.ofList w
      if constantWords.contains s then .ok (.constant s)
      else if reservedWords.contains s then .ok (.sign s)
      else .ok (.name s)

/-- The signs of more than one character, longer ones first. -/
def longSigns : List String :=
  ["**=", "//=", ">>=", "<<=", "!=", "%=", "&=", "**", "*=", "+=", "-=", "->", "//", "/=", ":=",
    "<<", "<=", "<>", "==", ">=", ">>", "@=", "^=", "|="]

/-- The sign at the start of a text. -/
def signAt (c : Char) (rest : List Char) : Token × List Char :=
  match longSigns.find? (·.toList.isPrefixOf (c :: rest)) with
  | some s => (.sign s, rest.drop (s.length - 1))
  | none => (.sign c.toString, rest)

/-- The token at the start of a text, which is no blank, comment or backslash. -/
def token (line : Nat) (c : Char) (rest : List Char) : Scanned :=
  if c.isDigit || (c = '.' && rest.head?.any Char.isDigit) then number (c :: rest)
  else if c = '\'' || c = '"' then quotedText line c [] rest
  else if goesOn c then
    let letters := c :: rest.takeWhile goesOn
    match rest.dropWhile goesOn with
    | q :: more =>
        if (q = '\'' || q = '"') && marksText letters then quotedText line q letters more
        else (wordToken letters).map (·, q :: more)
    | [] => (wordToken letters).map (·, [])
  else if c = '.' && rest.take 2 = ['.', '.'] then .ok (.dots, rest.drop 2)
  else .ok (signAt c rest)

/-! ## Texts for the reader -/

/-- A token where it stands. -/
structure Placed where
  token : Token
  /-- Its line. -/
  line : Nat
  /-- How many brackets are open behind it. -/
  level : Nat
  deriving DecidableEq, Repr

/-- A bracket that is open, and its line. -/
structure OpenBracket where
  bracket : Char
  line : Nat
  deriving DecidableEq, Repr

/-- What is wrong where the tokens end. -/
structure BadEnd where
  fault : Fault
  /-- Whether the fault is told before anything else. -/
  isUrgent : Bool
  /-- The innermost bracket that is open there. -/
  bracket : Option OpenBracket := none
  /-- Whether the last token shows that nothing comes behind it. -/
  isSeen : Bool := false
  deriving DecidableEq, Repr

/-- A text as a reader sees it. -/
structure Scan where
  tokens : List Placed
  /-- What is wrong where they end, if anything is. -/
  atEnd : Option BadEnd
  deriving DecidableEq, Repr

/-- A text with a token in front. -/
def Scan.after (t : Placed) (s : Scan) : Scan := { s with tokens := t :: s.tokens }

/-! ### Brackets -/

/-- The bracket that closes an opening one. -/
def closingOf? : Char → Option Char
  | '(' => some ')'
  | '[' => some ']'
  | '\x7b' => some '\x7d'
  | _ => none

/-- Whether a character is a closing bracket. -/
def isClosing (c : Char) : Bool := c = ')' || c = ']' || c = '\x7d'

/-- How many brackets may be in one another. -/
def depthLimit : Nat := 200

/-- The brackets that are open behind a character, the last one first. -/
def bracketsAfter (line : Nat) (opened : List OpenBracket) (c : Char) :
    Except Fault (List OpenBracket) :=
  if (closingOf? c).isSome then
    if opened.length < depthLimit then .ok (⟨c, line⟩ :: opened) else .error .tooDeep
  else if isClosing c then
    match opened with
    | [] => .error (.unmatched c)
    | o :: outer =>
        if closingOf? o.bracket = some c then .ok outer
        else if o.line = line then .error (.mismatched c o.bracket)
        else .error (.mismatchedFrom c o.bracket o.line)
  else .ok opened

/-! ### Scanning -/

/-- What is in front of a character in its line. -/
inductive Before where
  /-- Nothing. -/
  | nothing
  /-- Blanks. -/
  | blanks
  /-- A token. -/
  | token
  /-- A token that ends only here. -/
  | open_
  deriving DecidableEq, Repr

/-- What is in front of the character behind a blank. -/
def Before.blank : Before → Before
  | nothing | blanks => blanks
  | token | open_ => token

/-- What is in front of the character behind one that does not count. -/
def Before.gap : Before → Before
  | nothing | blanks => nothing
  | token | open_ => token

/-- What is in front of the character behind a token.  A text in quotes ends
with them. -/
def Before.behind : Token → Before
  | .text .. => token
  | _ => open_

/-- Whether there is a token. -/
def Before.isToken (b : Before) : Bool := b = token || b = open_

/-- A text that ends with a fault. -/
def Scan.ended (e : Fault) : Scan := ⟨[], some ⟨e, true, none, false⟩⟩

/-- The end of a text that is in the line `line`. -/
def scanEnd (line : Nat) (opened : List OpenBracket) (before : Before) : Scan :=
  match opened with
  | o :: _ => ⟨[], some ⟨.neverClosed o.bracket, false, some o, before = .open_⟩⟩
  | [] =>
      let ending : Scan := ⟨[⟨.ending, line, 0⟩], none⟩
      if before.isToken then ending.after ⟨.lineEnd, line, 0⟩ else ending

/-- The tokens of a text.  `line` counts lines, and `skip` the characters of the
last token that are still to come. -/
def scanFrom (line skip : Nat) (opened : List OpenBracket) (before : Before) :
    List Char → Scan
  | [] => scanEnd line opened before
  | c :: rest =>
      let line' := if c = '\n' then line + 1 else line
      match skip with
      | skip + 1 => scanFrom line' skip opened before rest
      | 0 =>
          if c = ' ' || c = '\t' then scanFrom line' 0 opened before.blank rest
          else if c = '\x0c' then scanFrom line' 0 opened before.gap rest
          else if c = '\n' then
            if opened.isEmpty then
              let behind := scanFrom line' 0 opened .nothing rest
              if before.isToken then behind.after ⟨.lineEnd, line, 0⟩ else behind
            else scanFrom line' 0 opened before.gap rest
          else if c = '#' then
            scanFrom line' (rest.takeWhile (· ≠ '\n')).length opened before.gap rest
          else if c = '\\' then
            if rest.head? = some '\n' then scanFrom line' 1 opened before.gap rest
            else ⟨[], some ⟨.afterBackslash, false, opened.head?, false⟩⟩
          else
            let here :=
              match bracketsAfter line opened c, token line c rest with
              | .error e, _ | _, .error e => .ended e
              | .ok opened, .ok (t, behind) =>
                  (scanFrom line' (rest.length - behind.length) opened (.behind t) rest).after
                    ⟨t, line, opened.length⟩
            if opened.isEmpty && before = .blanks then here.after ⟨.indent, line, 0⟩ else here
termination_by structural cs => cs

/-- A text in which every line break is a line feed. -/
def withLineFeeds : List Char → List Char
  | [] => []
  | '\r' :: '\n' :: rest => '\n' :: withLineFeeds rest
  | c :: rest => (if c = '\r' then '\n' else c) :: withLineFeeds rest
termination_by structural cs => cs

/-- The tokens of a text. -/
def scan (cs : List Char) : Scan := scanFrom 1 0 [] .nothing (withLineFeeds cs)

/-! ## Examples -/

example : (scan "(1, 2j".toList).tokens.map (·.token) =
    [.sign "(", .number false none, .sign ",", .number true none] := by decide +kernel
example : quoted [] ['a', '\\', 'x', '4'] =
    .text false false (some (.escape 1 3 "truncated \\xXX escape")) := by decide +kernel

end RouteGraft.Console.Literal
