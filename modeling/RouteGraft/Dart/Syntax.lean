import RouteGraft.Dart.Atom
import RouteGraft.Dart.Node

/-!
# From trees of the parser to syntax trees

The parser tells which atoms belong to which construct.  A syntax tree says the
same with nodes, and it keeps the comments.

Constructs without a name have no node, and their parts belong to the construct
around them; terminals without a name do not show.  A few parts go by another
name than their own: a name in the place of a type, and the words `get` and
`set` where they are names (`shownAs?`).  The name of a class or of a member,
and the body of a class, are in a field.

Comments in front of a token belong to the innermost construct that goes on
with this token but does not start with it.  So a node starts and ends with
tokens of its own.

A block is a terminal to the parser.  What its node consists of is given by the
caller; where it does not matter it is a row of tokens (`flat`).
-/

namespace RouteGraft.Dart

open Parsing (Tree Symbol)

/-- The nodes of a construct, in order. -/
abbrev Nodes := List Node

/-! ## Tokens -/

/-- The place of a token. -/
def Token.span (t : Token) : Span := ⟨t.start, t.stop⟩

/-- The node of a comment. -/
def commentNode (t : Token) : Node :=
  .mk (if t.lexeme = .comment true then .documentationComment else .comment) true none t.span []

/-- The terminal that one character spells. -/
def terminalOf? (c : Char) : Option Terminal :=
  (spelledSigns.find? fun (spelling, _) => spelling = [c]).map (·.2)

/-- The kind of the node of a token, where nothing more is known of it. -/
def Lexeme.kind : Lexeme → Kind
  | .word none => .identifier
  | .word (some k) => .terminal k
  | .number form => .terminal form.terminal
  | .text => .construct .stringLiteral
  | .sign c => ((terminalOf? c).map Kind.terminal).getD (.other (String.singleton c))
  | .comment true => .documentationComment
  | .comment false => .comment
  | .nothing | .stray => .error

/-- Whether the node of a token is a part of its parent, where nothing more is
known of it. -/
def Lexeme.isPart : Lexeme → Bool
  | .word (some _) => false
  | .sign _ => false
  | _ => true

namespace Leaf

/-- The nodes of the comments in front of a token. -/
def commentNodes (l : Leaf) : Nodes := l.comments.map commentNode

/-- The nodes of a token as it is, and of the comments in front of it. -/
def flat (l : Leaf) : Nodes :=
  l.commentNodes ++ [.mk l.token.lexeme.kind l.token.lexeme.isPart none l.token.span []]

end Leaf

/-- The nodes of some atoms without structure. -/
def flat (text : List Atom) : Nodes := text.flatMap (·.leaf.flat)

/-- One node for some nodes.  Comments in front of them stay outside. -/
def wrap (kind : Kind) (nodes : Nodes) : Nodes :=
  match nodes.dropWhile Node.isComment with
  | [] => nodes
  | first :: rest =>
      nodes.takeWhile Node.isComment
        ++ [.mk kind true none (first.span.through (rest.getLastD first).span) (first :: rest)]

/-! ## Constructs -/

/-- The construct of a number, if it is no repetition. -/
def construct? (n : Nat) : Option Construct :=
  if n < Construct.count then some (.ofNat n) else none

/-- Whether names in a construct stand for types. -/
def namesTypes : Construct → Bool
  | .typeName | .typeDotIdentifier | .typeParameter => true
  | _ => false

/-- Whether the words for accessors are names in a construct. -/
def namesAccessors : Construct → Bool
  | .functionSignature | .primary => true
  | _ => false

/-- The kind of the node of a part that does not go by its own name.  `parent`
is the construct that the part belongs to, whether that has a node or not. -/
def shownAs? (parent : Option Construct) (part : Tree) : Option Kind :=
  match part with
  | .leaf t .. =>
      if Terminal.ofNat t = .name && parent.any namesTypes then some .typeIdentifier else none
  | .node c .. =>
      let isAccessor := construct? c = some .getWord || construct? c = some .setWord
      if isAccessor && parent.any namesAccessors then some .identifier else none

/-- The field of a construct that a part of some kind is in. -/
def fieldOf? (parent : Option Construct) (kind : Kind) : Option Field :=
  match parent, kind with
  | some .classDefinition, .terminal .name | some .functionSignature, .terminal .name
  | some .getterSignature, .terminal .name | some .setterSignature, .terminal .name => some .name
  | some .classDefinition, .construct .classBody => some .body
  | _, _ => none

/-- The place in the source of the atoms between two places of a text. -/
def spanOf (text : Array Atom) (start stop : Nat) : Span :=
  ⟨(text[start]?.map (·.leaf.token.start)).getD 0, (text[stop - 1]?.map (·.stop)).getD 0⟩

/-- The nodes of the comments in front of an atom. -/
def commentsAt (text : Array Atom) (place : Nat) : Nodes :=
  (text[place]?.map (·.leaf.commentNodes)).getD []

/-- The nodes of a tree of the parser.  `inside` gives the parts of a construct
that is a block, from its place in the text.  `leads` says whether the comments
in front of the first token are wanted. -/
def syntaxOf (text : Array Atom) (inside : Construct → Nat → Nat → Nodes)
    (parent : Option Construct) (leads : Bool) (tree : Tree) : Nodes :=
  let comments := if leads then commentsAt text tree.start else []
  let span := spanOf text tree.start tree.stop
  let show_ (kind : Kind) (isPart : Bool) (children : Nodes) : Nodes :=
    comments ++ [.mk kind isPart (fieldOf? parent kind) span children]
  match shownAs? parent tree, tree with
  | some kind, _ => show_ kind true []
  | none, .leaf t start stop =>
      let terminal := Terminal.ofNat t
      if terminal = .block then
        match parent with
        | some c => inside c start stop
        | none => []
      else if terminal.name?.isSome then show_ (.terminal terminal) terminal.isPart []
      else comments
  | none, .node c _ _ _ children =>
      match construct? c with
      | some construct =>
          if construct.name?.isSome then
            show_ (.construct construct) true (parts (some construct) false children)
          else parts (some construct) leads children
      | none => parts none leads children
where
  /-- The nodes of the parts of a construct. -/
  parts (parent : Option Construct) (leads : Bool) : List Tree → Nodes
    | [] => []
    | t :: rest => syntaxOf text inside parent leads t ++ parts parent true rest

end RouteGraft.Dart
