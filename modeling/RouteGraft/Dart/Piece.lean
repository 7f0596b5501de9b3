import RouteGraft.Dart.Scan

/-!
# Tokens in their brackets

Round, square and curly brackets of Dart always come in pairs, so the tokens of
a source form a tree before anything is known of the grammar.  A `Piece` is a
single token or a group of pieces in brackets.  Declarations and the members of
a class end at a semicolon or a block outside of all other brackets, so their
ends are found among pieces.  The signs `<` and `>` are not brackets here, since
they also compare.

Comments wait in front of the token that follows them (`Leaf.comments`).
Comments that nothing follows are left over at the end.

`pieces` never fails.  A group that is still open at the end of the source is
closed there, by an empty bracket right behind the last token.  A closing
bracket closes the nearest group of its kind, and with it every group that was
opened later; if there is none it is a token like any other.
-/

namespace RouteGraft.Dart

/-! ## Pieces -/

/-- The three kinds of brackets. -/
inductive Bracket where
  | round
  | square
  | curly
  deriving DecidableEq, Repr

/-- The sign that opens a bracket. -/
def Bracket.opening : Bracket → Char
  | .round => '('
  | .square => '['
  | .curly => '{'

/-- The sign that closes a bracket. -/
def Bracket.closing : Bracket → Char
  | .round => ')'
  | .square => ']'
  | .curly => '}'

/-- The brackets. -/
def Bracket.all : List Bracket := [.round, .square, .curly]

/-- The bracket that a sign opens. -/
def opens? (c : Char) : Option Bracket := Bracket.all.find? (·.opening = c)

/-- The bracket that a sign closes. -/
def closes? (c : Char) : Option Bracket := Bracket.all.find? (·.closing = c)

/-- A token with the comments in front of it. -/
structure Leaf where
  /-- The comments, in order. -/
  comments : List Token
  /-- The token. -/
  token : Token
  deriving DecidableEq, Repr

/-- A token, or pieces in brackets. -/
inductive Piece where
  | leaf (l : Leaf)
  | group (bracket : Bracket) (opening : Leaf) (inside : List Piece) (closing : Leaf)
  deriving Repr

/-! ## Building the tree -/

/-- A group whose closing bracket has not come yet. -/
structure OpenGroup where
  /-- Its kind. -/
  bracket : Bracket
  /-- Its opening bracket. -/
  opening : Leaf
  /-- The pieces in front of it, last first. -/
  before : List Piece

/-- The group, closed, behind the pieces in front of it. -/
def OpenGroup.close (g : OpenGroup) (inside : List Piece) (closing : Leaf) : List Piece :=
  .group g.bracket g.opening inside.reverse closing :: g.before

/-- The empty bracket that closes a group where no bracket is written. -/
def OpenGroup.emptyClosing (g : OpenGroup) (comments : List Token) (place : Nat) : Leaf :=
  ⟨comments, ⟨.sign g.bracket.closing, place, place, true⟩⟩

/-- Closes the nearest group of a kind and every later one.  Gives the groups
that are left and the pieces behind the last of them, last first. -/
def closeGroup (b : Bracket) (closing : Leaf) (place : Nat) (inside : List Piece) :
    List OpenGroup → Option (List OpenGroup × List Piece)
  | [] => none
  | g :: outer =>
      if g.bracket = b then some (outer, g.close inside closing)
      else closeGroup b closing place (g.close inside (g.emptyClosing [] place)) outer
termination_by structural gs => gs

/-- Closes every group at the end of a source. -/
def closeAll (comments : List Token) (place : Nat) (inside : List Piece) :
    List OpenGroup → List Piece × List Token
  | [] => (inside.reverse, comments)
  | g :: outer => closeAll [] place (g.close inside (g.emptyClosing comments place)) outer
termination_by structural gs => gs

/-- Sorts tokens into groups.  `place` is the offset behind the last token;
`comments` and `inside` are those since it and since the last opening bracket,
last first. -/
def buildPieces (groups : List OpenGroup) (inside : List Piece) (comments : List Token)
    (place : Nat) : List Token → List Piece × List Token
  | [] => closeAll comments.reverse place inside groups
  | t :: rest =>
      let here : Leaf := ⟨comments.reverse, t⟩
      match t.lexeme with
      | .comment _ => buildPieces groups inside (t :: comments) t.stop rest
      | .sign c =>
          match opens? c, closes? c with
          | some b, _ => buildPieces (⟨b, here, inside⟩ :: groups) [] [] t.stop rest
          | none, some b =>
              match closeGroup b here place inside groups with
              | some (groups, inside) => buildPieces groups inside [] t.stop rest
              | none => buildPieces groups (.leaf here :: inside) [] t.stop rest
          | none, none => buildPieces groups (.leaf here :: inside) [] t.stop rest
      | _ => buildPieces groups (.leaf here :: inside) [] t.stop rest
termination_by structural tokens => tokens

/-- The pieces of a list of tokens, and the comments behind them all. -/
def pieces (tokens : List Token) : List Piece × List Token := buildPieces [] [] [] 0 tokens

/-! ## Looking at pieces -/

namespace Piece

/-- What a piece is if it is a token. -/
def lexeme? : Piece → Option Lexeme
  | .leaf l => some l.token.lexeme
  | .group .. => none

/-- Whether a piece is a sign. -/
def isSign (c : Char) (p : Piece) : Bool := p.lexeme? = some (.sign c)

/-- Whether a piece is a keyword. -/
def isKeyword (k : Terminal) (p : Piece) : Bool := p.lexeme? = some (.word (some k))

/-- Whether a piece is a group of a kind. -/
def isGroup (b : Bracket) : Piece → Bool
  | .group c .. => b = c
  | .leaf _ => false

end Piece

end RouteGraft.Dart
