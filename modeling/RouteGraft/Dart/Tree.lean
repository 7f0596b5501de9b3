import RouteGraft.Dart.Syntax

/-!
# The syntax tree of a source

A source is a row of declarations.  Classes are read by the grammar, and so are
their members, one by one.  Of any other declaration only the end matters, so it
is one node without structure.

A member ends with a semicolon or with a block, outside of all brackets.  Not
every such place is its end: a block may be a set or a map.  The member is the
shortest piece of the text that ends so and that the grammar can read.  At the
end of a class the last semicolon may be missing.  Text that the grammar
refuses goes up to the next such place, and is an error.

A class, without what is in its body, is read the same way.

A declaration that is no class ends with a semicolon, or with a block that is
its body.  What follows a sign of assignment or an arrow is a value, and braces
in it are no body.  `class` is no name, so a declaration also ends in front of
this word: text that is no declaration does not take a class with it.
-/

namespace RouteGraft.Dart

open Parsing (Outcome)

/-! ## Reading with the grammar -/

/-- What comes of reading atoms as a construct. -/
inductive Reading where
  | read (nodes : Nodes)
  /-- The atoms are the start of one. -/
  | unfinished
  | refused

/-- The nodes of a block, without the comments in front of it. -/
def blockNodes (text : Array Atom) (start stop : Nat) : Nodes :=
  match (text.extract start stop).toList with
  | [] => []
  | a :: rest => ({ a.leaf with comments := [] } : Leaf).flat ++ flat rest

/-- Reads atoms as a construct.  `body` gives the nodes of the body of a class,
which is the last thing in it. -/
def readAs (goal : Construct) (body : Unit → Nodes) (text : Array Atom) : Reading :=
  let inside (c : Construct) (start stop : Nat) : Nodes :=
    if c = .classBody then body () else blockNodes text start stop
  match grammar.parse goal.ctorIdx (source text) with
  | .read tree => .read (syntaxOf text inside none true tree)
  | .unfinished => .unfinished
  | .refused => .refused

/-- Whether a member or a class may end with a piece. -/
def mayEnd (p : Piece) : Bool := p.isSign ';' || p.isGroup .curly

/-- How many pieces there are up to each place where a member may end. -/
def endings (ps : List Piece) : List Nat :=
  ps.zipIdx.filterMap fun (p, i) => if mayEnd p then some (i + 1) else none

/-- A node for pieces that fit no rule. -/
def errorNodes (ps : List Piece) : Nodes := wrap .error (flat (atoms ps).toList)

/-! ## Members -/

/-- The place behind some atoms. -/
def stopOf (text : Array Atom) : Nat := (text.back?.map Atom.stop).getD 0

/-- Atoms with a semicolon behind them that takes up no room. -/
def withSemicolon (text : Array Atom) : Array Atom := text.push (.empty (.sign ';') (stopOf text))

/-- The member that pieces start with, and the pieces behind it.  It may end
after any of some numbers of pieces. -/
def member? (ps : List Piece) : List Nat → Option (Nodes × List Piece)
  | [] =>
      match readAs .memberUnit (fun _ => []) (withSemicolon (atoms ps)) with
      | .read nodes => some (nodes, [])
      | _ => none
  | n :: more =>
      match readAs .memberUnit (fun _ => []) (atoms (ps.take n)) with
      | .read nodes => some (nodes, ps.drop n)
      | .unfinished => member? ps more
      | .refused => none

/-- The nodes of members, of which there are at most so many. -/
def membersUpTo : Nat → List Piece → Nodes
  | 0, ps => errorNodes ps
  | _ + 1, [] => []
  | n + 1, p :: rest =>
      if p.isSign ';' then flat (atoms [p]).toList ++ membersUpTo n rest
      else
        match member? (p :: rest) (endings (p :: rest)) with
        | some (nodes, more) => nodes ++ membersUpTo n more
        | none =>
            let length := ((endings (p :: rest)).head?).getD (rest.length + 1)
            errorNodes ((p :: rest).take length) ++ membersUpTo n ((p :: rest).drop length)

/-- The nodes of all the members of a class. -/
def members (ps : List Piece) : Nodes := membersUpTo (ps.length + 1) ps

/-! ## Classes and other declarations -/

/-- The nodes of the body of a class, without the comments in front of it. -/
def classBody : Piece → Nodes
  | .group _ opening inside closing =>
      ({ opening with comments := [] } : Leaf).flat ++ members inside ++ closing.flat
  | .leaf _ => []

/-- The class that pieces start with, and the pieces behind it. -/
def class? (ps : List Piece) : Option (Nodes × List Piece) := do
  let n ← (endings ps).head?
  let last ← ps[n - 1]?
  match readAs .classUnit (fun _ => classBody last) (atoms (ps.take n)) with
  | .read nodes => some (nodes, ps.drop n)
  | _ => none

/-- The number of pieces of a declaration that is no class, behind its first
piece.  `isValue` says that a value has begun. -/
def declarationLength (isValue : Bool) : List Piece → Nat
  | [] => 0
  | p :: rest =>
      if p.isKeyword .class_ then 0
      else if p.isSign ';' then 1
      else if p.isGroup .curly && !isValue then 1
      else 1 + declarationLength (isValue || p.isSign '=') rest
termination_by structural ps => ps

/-- The nodes of declarations, of which there are at most so many. -/
def declarationsUpTo : Nat → List Piece → Nodes
  | 0, ps => errorNodes ps
  | _ + 1, [] => []
  | n + 1, p :: rest =>
      match class? (p :: rest) with
      | some (nodes, more) => nodes ++ declarationsUpTo n more
      | none =>
          if p.isSign ';' then flat (atoms [p]).toList ++ declarationsUpTo n rest
          else
            let length := declarationLength false rest
            wrap (.construct .declaration) (flat (atoms (p :: rest.take length)).toList)
              ++ declarationsUpTo n (rest.drop length)

/-- The tree of some tokens. -/
def Node.ofTokens (ts : List Token) (length : Nat) : Node :=
  let (ps, comments) := pieces ts
  .mk .program true none ⟨0, length⟩
    (declarationsUpTo (ps.length + 1) ps ++ comments.map commentNode)

/-- The syntax tree of a source. -/
def Node.ofSource (source : Bytes) : Node := Node.ofTokens (tokens source) source.length

end RouteGraft.Dart
