import RouteGraft.Dart.Terminal

/-!
# Tokens of Dart

A Dart source is a sequence of tokens with blanks between them.  A token keeps
its place in the source and what it is, and not its text: the grammar never
looks at the text of a name, a number or a string.

A word is a run of ASCII letters, digits, `_` and `$`.  It carries the keyword
it spells, if any.  Whether it is that keyword or a name depends on what the
grammar expects.

Every character of punctuation is a token.  Which of them make up one sign
depends on what the grammar expects, too.  They can only if nothing stands
between them (`Token.glued`).

Comments are tokens too.  They are part of the syntax tree, where they may
stand between any two other tokens.
-/

namespace RouteGraft.Dart

/-! ## Tokens -/

/-- The forms of a number. -/
inductive NumberForm where
  | decimal
  | floating
  | hex
  deriving DecidableEq, Repr

/-- What a token is. -/
inductive Lexeme where
  /-- A word, and the keyword it spells. -/
  | word (keyword : Option Terminal)
  | number (form : NumberForm)
  /-- A string in any kind of quotes. -/
  | text
  /-- A character of punctuation. -/
  | sign (c : Char)
  /-- A comment, and whether it documents something. -/
  | comment (documents : Bool)
  /-- Nothing, where a value is missing. -/
  | nothing
  /-- A byte that starts no token. -/
  | stray
  deriving DecidableEq, Repr

/-- A token and its place. -/
structure Token where
  /-- What it is. -/
  lexeme : Lexeme
  /-- The offset of its first byte. -/
  start : Nat
  /-- The offset behind its last byte. -/
  stop : Nat
  /-- Whether it follows the token before it with nothing between them. -/
  glued : Bool
  deriving DecidableEq, Repr

/-- Whether a token is a comment. -/
def Token.isComment (t : Token) : Bool :=
  match t.lexeme with
  | .comment _ => true
  | _ => false

end RouteGraft.Dart
