import RouteGraft.Text.Quoted

/-!
# Faults of literals

Three kinds of faults keep a text from being a literal.  A character may be in
no token, or a bracket may lack its counterpart.  The tokens may make up no
expression.  And an expression may hold more than literals.

Tokens that make up no expression are told by what they look like, if that is a
known mistake (`Mistake`), and else by no more than that they are strange.
-/

namespace RouteGraft.Console.Literal

/-! ## Mistakes -/

/-- What goes wrong often enough to be told apart. -/
inductive Mistake where
  /-- Two values side by side in brackets. -/
  | missingComma
  /-- A command that has become a function. -/
  | oldCommand (name : String)
  /-- A condition without the other case. -/
  | missingElse
  /-- An equals sign behind a name. -/
  | assignedName
  /-- An equals sign behind some other expression. -/
  | assigned (what : String)
  /-- An equals sign behind a constant in a call. -/
  | assignedConstant (word : String)
  /-- An equals sign behind some other expression in a call. -/
  | assignedArgument
  /-- A name for a value that is given to something else. -/
  | namedWrongly (what : String)
  /-- A loop over something that cannot be assigned to. -/
  | loopTarget (what : String)
  /-- A star in brackets of its own. -/
  | starInBrackets
  /-- Two stars in brackets of their own. -/
  | twoStarsInBrackets
  /-- A star with nothing behind it. -/
  | bareStar
  /-- A star in front of the value of a loop. -/
  | starInLoop
  /-- Two stars in front of the value of a loop. -/
  | twoStarsInLoop
  /-- Several values of a loop without brackets. -/
  | severalInLoop
  /-- A star in front of the value of a key. -/
  | starredValue
  /-- A key without its colon. -/
  | missingColon
  /-- A key without its value. -/
  | missingValue
  /-- A loop beside other arguments. -/
  | bareLoop
  /-- An argument without a name behind one with a name. -/
  | namelessArgument
  /-- An argument without a name behind one with two stars. -/
  | namelessBehindStars
  /-- An argument with a star behind one with two stars. -/
  | starBehindStars
  /-- A parameter without a default behind one with a default. -/
  | missingDefault
  /-- An equals sign of a default with nothing behind it. -/
  | emptyDefault
  /-- Parameters in brackets. -/
  | bracketedParameters
  /-- A slash in front of all parameters. -/
  | slashFirst
  /-- Two slashes. -/
  | twoSlashes
  /-- A slash behind a star. -/
  | slashBehindStar
  /-- A slash right in front of a star. -/
  | slashTouchesStar
  /-- A star with no parameters behind it. -/
  | starWithoutNames
  /-- A default for a parameter with a star. -/
  | starDefault
  /-- Two parameters with a star. -/
  | twoStarParameters
  /-- A default for a parameter with two stars. -/
  | starsDefault
  /-- Parameters behind one with two stars. -/
  | parameterBehindStars
  deriving DecidableEq, Repr

/-- The wording of a mistake. -/
def Mistake.message : Mistake → String
  | .missingComma => "invalid syntax. Perhaps you forgot a comma?"
  | .oldCommand name =>
      "Missing parentheses in call to '" ++ name ++ "'. Did you mean " ++ name ++ "(...)?"
  | .missingElse => "expected 'else' after 'if' expression"
  | .assignedName => "invalid syntax. Maybe you meant '==' or ':=' instead of '='?"
  | .assigned what =>
      "cannot assign to " ++ what ++ " here. Maybe you meant '==' instead of '='?"
  | .assignedConstant word => "cannot assign to " ++ word
  | .assignedArgument => "expression cannot contain assignment, perhaps you meant \"==\"?"
  | .namedWrongly what => "cannot use assignment expressions with " ++ what
  | .loopTarget what => "cannot assign to " ++ what
  | .starInBrackets => "cannot use starred expression here"
  | .twoStarsInBrackets => "cannot use double starred expression here"
  | .bareStar => "Invalid star expression"
  | .starInLoop => "iterable unpacking cannot be used in comprehension"
  | .twoStarsInLoop => "dict unpacking cannot be used in dict comprehension"
  | .severalInLoop => "did you forget parentheses around the comprehension target?"
  | .starredValue => "cannot use a starred expression in a dictionary value"
  | .missingColon => "':' expected after dictionary key"
  | .missingValue => "expression expected after dictionary key and ':'"
  | .bareLoop => "Generator expression must be parenthesized"
  | .namelessArgument => "positional argument follows keyword argument"
  | .namelessBehindStars => "positional argument follows keyword argument unpacking"
  | .starBehindStars => "iterable argument unpacking follows keyword argument unpacking"
  | .missingDefault => "non-default argument follows default argument"
  | .emptyDefault => "expected default value expression"
  | .bracketedParameters => "Lambda expression parameters cannot be parenthesized"
  | .slashFirst => "at least one argument must precede /"
  | .twoSlashes => "/ may appear only once"
  | .slashBehindStar => "/ must be ahead of *"
  | .slashTouchesStar => "expected comma between / and *"
  | .starWithoutNames => "named arguments must follow bare *"
  | .starDefault => "var-positional argument cannot have default value"
  | .twoStarParameters => "* argument may appear only once"
  | .starsDefault => "var-keyword argument cannot have default value"
  | .parameterBehindStars => "arguments cannot follow var-keyword argument"

/-! ## Faults -/

/-- What keeps a text from being a literal. -/
inductive Fault where
  /-- A text in quotes that is not closed, and the line where that shows. -/
  | unterminated (triple : Bool) (line : Nat)
  /-- A closing bracket where none is open. -/
  | unmatched (closing : Char)
  /-- A closing bracket of another kind than the opening one. -/
  | mismatched (closing opening : Char)
  /-- A closing bracket of another kind than the opening one in an earlier line. -/
  | mismatchedFrom (closing opening : Char) (line : Nat)
  /-- A bracket that is open at the end. -/
  | neverClosed (opening : Char)
  /-- Too many brackets in one another. -/
  | tooDeep
  /-- A number of a kind that goes on wrong. -/
  | brokenNumber (kind : String)
  /-- A digit too large for the kind of its number. -/
  | largeDigit (digit : Char) (kind : String)
  /-- A decimal number with zeros in front. -/
  | leadingZeros
  /-- A number of more digits than numbers may have. -/
  | longNumber (digits : Nat)
  /-- An escape in a text, between two places of it, that is not right. -/
  | escape (first last : Nat) (reason : String)
  /-- An escape in a text of bytes that is not right. -/
  | byteEscape (place : Nat)
  /-- A text of bytes with a character that is no byte. -/
  | noByte
  /-- Texts of characters and of bytes side by side. -/
  | mixedTexts
  /-- A backslash that does not end a line. -/
  | afterBackslash
  /-- A character that no token has. -/
  | strangeCharacter (c : Char)
  /-- A NUL. -/
  | nul
  /-- A line that starts with a blank. -/
  | indented
  /-- A known mistake. -/
  | mistake (m : Mistake)
  /-- A token that no expression has in its place. -/
  | strangeToken
  /-- An expression that is no literal. -/
  | malformed
  /-- An entry of a dictionary that has no key. -/
  | nothingLookedUp
  /-- A set or a dictionary where only a value that can be looked up may be. -/
  | unhashable (what : String)
  deriving DecidableEq, Repr

/-- A code point as it is told: four hexadecimal digits or more, in capitals. -/
def codePoint (c : Char) : String :=
  let digits := if c.toNat < 0x10000 then 4 else if c.toNat < 0x100000 then 5 else 6
  "U+" ++ String.ofList ((Text.Quoted.hex digits c.toNat).map Char.toUpper)

/-- How many digits a number may have. -/
def digitLimit : Nat := 4300

/-- The wording of a limit that a number of so many digits exceeds. -/
def limitMessage (digits : Nat) : String :=
  "Exceeds the limit (" ++ toString digitLimit
    ++ " digits) for integer string conversion: value has " ++ toString digits
    ++ " digits; use sys.set_int_max_str_digits() to increase the limit"

/-- The wording of a fault. -/
def Fault.message : Fault → String
  | .unterminated triple line =>
      "unterminated " ++ (if triple then "triple-quoted " else "")
        ++ "string literal (detected at line " ++ toString line ++ ")"
  | .unmatched closing => "unmatched '" ++ closing.toString ++ "'"
  | .mismatched closing opening =>
      "closing parenthesis '" ++ closing.toString
        ++ "' does not match opening parenthesis '" ++ opening.toString ++ "'"
  | .mismatchedFrom closing opening line =>
      "closing parenthesis '" ++ closing.toString
        ++ "' does not match opening parenthesis '" ++ opening.toString
        ++ "' on line " ++ toString line
  | .neverClosed opening => "'" ++ opening.toString ++ "' was never closed"
  | .tooDeep => "too many nested parentheses"
  | .brokenNumber kind => "invalid " ++ kind ++ " literal"
  | .largeDigit digit kind =>
      "invalid digit '" ++ digit.toString ++ "' in " ++ kind ++ " literal"
  | .leadingZeros =>
      "leading zeros in decimal integer literals are not permitted; "
        ++ "use an 0o prefix for octal integers"
  | .longNumber digits =>
      limitMessage digits ++ " - Consider hexadecimal for huge integer literals to avoid "
        ++ "decimal conversion limits."
  | .escape first last reason =>
      "(unicode error) 'unicodeescape' codec can't decode bytes in position " ++ toString first
        ++ "-" ++ toString last ++ ": " ++ reason
  | .byteEscape place => "(value error) invalid \\x escape at position " ++ toString place
  | .noByte => "bytes can only contain ASCII literal characters"
  | .mixedTexts => "cannot mix bytes and nonbytes literals"
  | .afterBackslash => "unexpected character after line continuation character"
  | .strangeCharacter c =>
      if Text.isVisible c then
        "invalid character '" ++ c.toString ++ "' (" ++ codePoint c ++ ")"
      else "invalid non-printable character " ++ codePoint c
  | .nul => "source code string cannot contain null bytes"
  | .indented => "unexpected indent"
  | .mistake m => m.message
  | .strangeToken => "invalid syntax"
  | .malformed => "malformed node or string"
  | .nothingLookedUp => "malformed node or string: None"
  | .unhashable what => "unhashable type: '" ++ what ++ "'"

/-- Whether the text is refused before its values are looked at. -/
def Fault.isOfText : Fault → Bool
  | .malformed | .nothingLookedUp | .unhashable _ => false
  | _ => true

end RouteGraft.Console.Literal
