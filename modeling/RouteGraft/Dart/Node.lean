import RouteGraft.Text.Span
import RouteGraft.Dart.Construct
import RouteGraft.Dart.Terminal

/-!
# Syntax trees of Dart

A node of a syntax tree has a kind, a span, and the nodes it consists of.  The
kinds are the constructs of the grammar and its terminals.  A node that stands
for a construct is *named* and one that stands for a sign or a keyword is not,
so that `named` children are the parts of a construct and the other ones its
punctuation.  Comments are named, and may stand anywhere.

One part of a construct can be in a *field*, by which it is found again wherever
it stands: the body of a class, the name of a method.

The tree may also come from elsewhere, so nothing ties the flag, the field and
the kind of a node to one another.

`descendant?` is a search by levels.  It looks at the children first, then at
their children, and so on down to a depth, and gives the first node of one of
some kinds.
-/

namespace RouteGraft.Dart

/-! ## Kinds of nodes -/

/-- What a node stands for. -/
inductive Kind where
  /-- A whole source. -/
  | program
  | construct (c : Construct)
  | terminal (t : Terminal)
  /-- A name in the place of a type. -/
  | typeIdentifier
  | comment
  | documentationComment
  /-- Text that fits no rule. -/
  | error
  /-- A kind of a grammar that is not this one. -/
  | other (name : String)
  deriving DecidableEq, Repr

namespace Kind

/-- A plain name. -/
abbrev identifier : Kind := .terminal .name

/-- A class, under the name that other versions of the grammar give it. -/
abbrev classDeclaration : Kind := .other "class_declaration"

/-- A comment of either kind. -/
def isComment (k : Kind) : Bool := k = .comment || k = .documentationComment

/-- A plain name or the name of a type. -/
def isIdentifier (k : Kind) : Bool := k = .identifier || k = .typeIdentifier

/-- The name the grammar gives to a kind. -/
def name : Kind → String
  | program => "program"
  | construct c => c.name?.getD ""
  | terminal t => t.name?.getD ""
  | typeIdentifier => "type_identifier"
  | comment => "comment"
  | documentationComment => "documentation_comment"
  | error => "ERROR"
  | other name => name

end Kind

/-- The parts of a construct that are found by a name of their own. -/
inductive Field where
  | name
  | body
  deriving DecidableEq, Repr

/-! ## Nodes -/

/-- A node of a syntax tree. -/
inductive Node where
  | mk (kind : Kind) (named : Bool) (field : Option Field) (span : Span) (children : List Node)
  deriving Repr

namespace Node

/-- What a node stands for. -/
def kind : Node → Kind
  | mk k .. => k

/-- Whether a node is a part of its parent, and not punctuation. -/
def named : Node → Bool
  | mk _ n .. => n

/-- The field of its parent that a node fills. -/
def field : Node → Option Field
  | mk _ _ f .. => f

/-- The place of a node. -/
def span : Node → Span
  | mk _ _ _ s _ => s

/-- The nodes a node consists of, in order. -/
def children : Node → List Node
  | mk _ _ _ _ cs => cs

/-- The node as the part of its parent that fills a field. -/
def withField (f : Field) : Node → Node
  | mk k n _ s cs => mk k n (some f) s cs

/-- Whether a node is a comment. -/
def isComment (n : Node) : Bool := n.kind.isComment

/-- Whether a node is a part of its parent other than a comment. -/
def isPart (n : Node) : Bool := n.named && !n.isComment

/-- The number of levels of a tree. -/
def height : Node → Nat
  | mk _ _ _ _ cs => heights cs + 1
where
  /-- The number of levels of the highest of some trees. -/
  heights : List Node → Nat
    | [] => 0
    | n :: rest => max n.height (heights rest)

/-! ## Finding nodes -/

/-- The parts of a node: its named children without comments. -/
def parts (n : Node) : List Node := n.children.filter isPart

/-- The first child of one of some kinds. -/
def child? (n : Node) (wanted : Kind → Bool) : Option Node :=
  n.children.find? (wanted ·.kind)

/-- The first child in a field, or else the first child of one of some kinds. -/
def fieldOrChild? (n : Node) (f : Field) (wanted : Kind → Bool) : Option Node :=
  match n.children.find? (·.field = some f) with
  | some c => some c
  | none => n.child? wanted

/-- The first node of one of some kinds on `depth` levels, of which `level` is
the first. -/
def findOnLevels (wanted : Kind → Bool) : (depth : Nat) → (level : List Node) → Option Node
  | 0, _ => none
  | depth + 1, level =>
      match level.find? (wanted ·.kind) with
      | some n => some n
      | none => findOnLevels wanted depth (level.flatMap children)
termination_by structural depth => depth

/-- The first node of one of some kinds at most `depth` levels below a node. -/
def descendant? (n : Node) (wanted : Kind → Bool) (depth : Nat) : Option Node :=
  findOnLevels wanted depth n.children

/-! ## Groups between commas -/

/-- Sibling nodes cut at commas. -/
structure CommaGroups where
  /-- The parts between commas.  No group is empty. -/
  groups : List (List Node)
  /-- Whether a comma follows the last part. -/
  trailing : Bool
  deriving Repr

/-- Cuts siblings at commas.  `open_` holds the parts since the last comma and
`trailing` says whether a comma follows the last part so far. -/
def commaGroupsFrom (open_ : List Node) (trailing : Bool) : List Node → CommaGroups
  | [] => ⟨if open_.isEmpty then [] else [open_], trailing⟩
  | c :: rest =>
      if c.isComment then commaGroupsFrom open_ trailing rest
      else if c.kind = .terminal .comma then
        let later := commaGroupsFrom [] true rest
        ⟨if open_.isEmpty then later.groups else open_ :: later.groups, later.trailing⟩
      else if c.named then commaGroupsFrom (open_ ++ [c]) false rest
      else commaGroupsFrom open_ trailing rest
termination_by structural cs => cs

/-- The parts of some siblings between their commas.  Comments and punctuation
other than commas are left out. -/
def commaGroups (siblings : List Node) : CommaGroups := commaGroupsFrom [] false siblings

end Node

end RouteGraft.Dart
