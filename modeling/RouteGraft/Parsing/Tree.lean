import RouteGraft.Parsing.Grammar

/-!
# Trees of a parser

A `Tree` tells how a text is made up of the symbols of a grammar.  Its leaves
are terminals and its nodes constructs, and each knows the places in the text
between which it stands.

A parser that follows several readings of a text has to choose between their
trees.  `Tree.better` prefers the greater preference.  On a tie it takes the
tree that comes first: both are walked from the top, node before children, to
the first difference in symbol or number of children, and the lower symbol or
the smaller number comes first.
-/

namespace RouteGraft.Parsing

/-- A text as the grammar reads it. -/
inductive Tree where
  /-- A terminal and its place. -/
  | leaf (terminal : Nat) (start stop : Nat)
  /-- A construct, how much its reading is preferred, its place and its parts. -/
  | node (construct : Nat) (preference : Int) (start stop : Nat) (children : List Tree)
  deriving Repr, Inhabited

namespace Tree

/-- The place where a tree starts. -/
def start : Tree → Nat
  | leaf _ a _ => a
  | node _ _ a _ _ => a

/-- The place where a tree ends. -/
def stop : Tree → Nat
  | leaf _ _ b => b
  | node _ _ _ b _ => b

/-- How much the readings in a tree are preferred. -/
def preference : Tree → Int
  | leaf .. => 0
  | node _ p .. => p

/-- The parts of a tree. -/
def children : Tree → List Tree
  | leaf .. => []
  | node _ _ _ _ cs => cs

/-- The symbol of a tree.  Constructs are numbered behind the terminals. -/
def symbol (terminals : Nat) : Tree → Symbol
  | leaf t .. => t
  | node c .. => terminals + c

/-- The node of a construct over its parts. -/
def ofChildren (construct : Nat) (preference : Int) (children : List Tree) : Tree :=
  node construct (children.foldl (fun p t => p + t.preference) preference)
    ((children.head?.map start).getD 0) ((children.getLast?.map stop).getD 0) children

/-- Whether two trees look the same from outside. -/
def alike (terminals : Nat) (a b : Tree) : Bool :=
  a.symbol terminals = b.symbol terminals && a.start = b.start && a.stop = b.stop
    && a.children.length = b.children.length

/-- The order of two trees. -/
def compare : Tree → Tree → Ordering
  | leaf t _ _, leaf u _ _ => Ord.compare t u
  | leaf .., node .. => .lt
  | node .., leaf .. => .gt
  | node c _ _ _ xs, node d _ _ _ ys =>
      ((Ord.compare c d).then (Ord.compare xs.length ys.length)).then (compareAll xs ys)
where
  /-- The order of two lists of trees of one length. -/
  compareAll : List Tree → List Tree → Ordering
    | x :: xs, y :: ys => (compare x y).then (compareAll xs ys)
    | _, _ => .eq

/-- The one of two trees that is kept. -/
def better (a b : Tree) : Tree :=
  if b.preference > a.preference then b
  else if a.preference > b.preference then a
  else if compare a b = .gt then b else a

end Tree

end RouteGraft.Parsing
