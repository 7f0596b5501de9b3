import RouteGraft.Console.Literal.Token
import Std.Data.HashMap

/-!
# Reading by patterns

A pattern says how to read tokens from a place on.  It matches at most one run
of tokens.  Of two alternatives the second is tried only if the first does not
match, and a repetition goes on for as long as it can.  Patterns look ahead
without reading.

A *rule* is a pattern with a name, so that patterns can contain one another.
What a rule has given at a place is remembered.  Without that a bracket, which
may start many things, would be read once for each of them.

Tokens that match no pattern are read a second time, in order to *explain* what
is wrong.  Some patterns are for mistakes and match only then
(`Pattern.mistake`).  Reading ends with the first mistake that is met, so the
order of the alternatives decides which one is told.  What is remembered counts
here as well: a rule that has been read quietly is not explained later.
-/

namespace RouteGraft.Console.Literal

/-! ## Trees -/

/-- What parts of an expression make up. -/
inductive Form where
  | tuple
  | set
  | dictionary
  /-- A key and its value. -/
  | pair
  /-- A part with two stars. -/
  | unpacking
  /-- A part with a star. -/
  | starred
  /-- A function and its arguments. -/
  | call
  /-- An argument with a name. -/
  | keyword
  | attribute
  /-- A sum or a difference. -/
  | sum
  /-- A part with a sign in front. -/
  | signed
  | operation
  /-- A comparison that starts with `in`. -/
  | membership
  | comparison
  | conditional
  | function
  /-- A value that is given a name. -/
  | named
  | yield
  | await
  | generator
  | setLoop
  | dictionaryLoop
  deriving DecidableEq, Repr

/-- An expression. -/
inductive Tree where
  | leaf (t : Token)
  | node (form : Form) (parts : List Tree)
  deriving Repr

instance : Inhabited Tree := ⟨.leaf .ending⟩

namespace Tree

/-- The expression with another part in front of its parts. -/
def behind (first : Tree) : Tree → Tree
  | leaf t => leaf t
  | node form parts => node form (first :: parts)

/-- Whether an expression is of a form. -/
def isForm (form : Form) : Tree → Bool
  | node f _ => f = form
  | leaf _ => false

/-- How a mistake tells of an expression. -/
def title : Tree → String
  | leaf (.name _) => "name"
  | leaf (.constant word) => word
  | leaf .dots => "ellipsis"
  | leaf (.text _ true _) => "f-string expression"
  | leaf _ => "literal"
  | node form _ =>
      match form with
      | .tuple => "tuple"
      | .set => "set display"
      | .dictionary => "dict literal"
      | .starred => "starred"
      | .call => "function call"
      | .attribute => "attribute"
      | .sum | .signed | .operation => "expression"
      | .membership | .comparison => "comparison"
      | .conditional => "conditional expression"
      | .function => "lambda"
      | .named => "named expression"
      | .yield => "yield expression"
      | .await => "await expression"
      | .generator => "generator expression"
      | .setLoop => "set comprehension"
      | .dictionaryLoop => "dict comprehension"
      | .pair | .unpacking | .keyword => ""

end Tree

/-! ## Patterns -/

/-- The rules. -/
inductive Rule where
  | whole
  | values
  | value
  | starValues
  | starValue
  | starOperands
  | starOperand
  | naming
  | operand
  | misnaming
  | disjunction
  | conjunction
  | inversion
  | comparison
  | bitOr
  | bitXor
  | bitAnd
  | shift
  | sum
  | term
  | factor
  | power
  | awaited
  | primary
  | atom
  | texts
  | group
  | tuple
  | generator
  | set
  | dictionary
  | setLoop
  | dictionaryLoop
  | entries
  | entry
  | pair
  | badEntries
  | badPair
  | badLoop
  | loops
  | loop
  | targets
  | target
  | plainTarget
  | targetAtom
  | targetTuple
  | targetPrimary
  | arguments
  | argumentList
  | keywordArguments
  | badArguments
  | badKeyword
  | starredArgument
  | namedOrStarred
  | namedOrUnpacked
  | function
  | parameters
  | plainParameters
  | badParameters
  | starParameters
  | starsParameter
  | slashParameters
  | slashDefaults
  | parameter
  | defaultParameter
  | anyParameter
  deriving DecidableEq, Repr

/-- What the pattern of a mistake has matched. -/
structure Match where
  /-- What it has kept. -/
  trees : List Tree
  /-- How many brackets are open behind it. -/
  level : Nat

/-- A way to read tokens. -/
inductive Pattern where
  /-- Nothing at all. -/
  | nothing
  /-- A token of some kind, which is kept. -/
  | token (accepts : Token → Bool)
  /-- A token that is not kept. -/
  | mark (t : Token)
  | rule (r : Rule)
  | seq (a b : Pattern)
  | alt (a b : Pattern)
  /-- Any number of a part. -/
  | many (p : Pattern)
  /-- A part that follows but is not read. -/
  | ahead (p : Pattern)
  /-- A part that does not follow. -/
  | absent (p : Pattern)
  /-- A part of which nothing is kept. -/
  | dropped (p : Pattern)
  /-- A part made into one tree, which may fail. -/
  | made (build : List Tree → Except Fault Tree) (p : Pattern)
  /-- A part and any number of others, each of which has all that is in front of
  it as its first part. -/
  | grown (base tail : Pattern)
  /-- A part that is told as a mistake, or else does not match.  Where it is not
  there at all, other mistakes are looked for. -/
  | mistake (p : Pattern) (told : Match → Option Mistake) (otherwise : Pattern)
  /-- A part in which no mistakes are told. -/
  | quiet (p : Pattern)

namespace Pattern

instance : Append Pattern := ⟨seq⟩

instance : OrOp Pattern := ⟨alt⟩

/-- A pattern that matches nowhere. -/
def never : Pattern := token fun _ => false

/-- A sign that is not kept. -/
def sign (s : String) : Pattern := mark (.sign s)

/-- A part that may be missing. -/
def optional (p : Pattern) : Pattern := p ||| nothing

/-- One or more of a part. -/
def repeated (p : Pattern) : Pattern := p ++ many p

/-- One or more of a part with commas in between. -/
def separated (p : Pattern) : Pattern := p ++ many (sign "," ++ p)

/-- A part as a tree of some form. -/
def form (f : Form) (p : Pattern) : Pattern := made (fun parts => .ok (.node f parts)) p

end Pattern

/-! ## Reading -/

/-- What a pattern has matched. -/
structure Found where
  /-- What is kept of it. -/
  trees : List Tree
  /-- The place behind it. -/
  place : Nat

/-- What is known of the rules, and how far the tokens have been looked at. -/
structure Memory where
  known : Std.HashMap (Nat × Nat) (Option Found) := ∅
  furthest : Nat := 0

/-- A reading, which may end with a fault. -/
abbrev Reading (α : Type) := ExceptT Fault (StateM Memory) α

/-- A text for the reader. -/
structure Source where
  tokens : Array Placed
  atEnd : Option BadEnd

/-- The token at a place.  Where there is none the reading ends. -/
def tokenAt (s : Source) (place : Nat) : Reading Token := do
  modify fun m => { m with furthest := max m.furthest place }
  match s.tokens[place]? with
  | some t => return t.token
  | none => throw ((s.atEnd.map BadEnd.fault).getD .strangeToken)

/-- How many brackets are open in front of a place. -/
def levelBefore (s : Source) (place : Nat) : Nat := (s.tokens[place - 1]?.map Placed.level).getD 0

/-- The rules of a grammar, and which of them are remembered. -/
structure Rules where
  pattern : Rule → Pattern
  isRemembered : Rule → Bool

/-- What a pattern matches at a place.  `fuel` bounds how deep patterns are in
one another. -/
def read (rules : Rules) (s : Source) :
    (fuel : Nat) → (explaining : Bool) → Pattern → (place : Nat) → Reading (Option Found)
  | 0, _, _, _ => return none
  | fuel + 1, explaining, p, place =>
      match p with
      | .nothing => return some ⟨[], place⟩
      | .token accepts => do
          let t ← tokenAt s place
          return if accepts t then some ⟨[.leaf t], place + 1⟩ else none
      | .mark expected => do
          let t ← tokenAt s place
          return if t = expected then some ⟨[], place + 1⟩ else none
      | .rule r => do
          if rules.isRemembered r then
            match (← get).known[(r.ctorIdx, place)]? with
            | some found => return found
            | none =>
                let found ← read rules s fuel explaining (rules.pattern r) place
                modify fun m => { m with known := m.known.insert (r.ctorIdx, place) found }
                return found
          else read rules s fuel explaining (rules.pattern r) place
      | .seq a b => do
          match ← read rules s fuel explaining a place with
          | none => return none
          | some x =>
              match ← read rules s fuel explaining b x.place with
              | none => return none
              | some y => return some ⟨x.trees ++ y.trees, y.place⟩
      | .alt a b => do
          match ← read rules s fuel explaining a place with
          | some x => return some x
          | none => read rules s fuel explaining b place
      | .many p => do
          match ← read rules s fuel explaining p place with
          | none => return some ⟨[], place⟩
          | some x =>
              match ← read rules s fuel explaining (.many p) x.place with
              | none => return some x
              | some y => return some ⟨x.trees ++ y.trees, y.place⟩
      | .ahead p => do
          let x ← read rules s fuel explaining p place
          return if x.isSome then some ⟨[], place⟩ else none
      | .absent p => do
          let x ← read rules s fuel explaining p place
          return if x.isSome then none else some ⟨[], place⟩
      | .dropped p => do
          return (← read rules s fuel explaining p place).map ({ · with trees := [] })
      | .made build p => do
          match ← read rules s fuel explaining p place with
          | none => return none
          | some x =>
              match build x.trees with
              | .ok tree => return some ⟨[tree], x.place⟩
              | .error e => throw e
      | .grown base tail => do
          match ← read rules s fuel explaining base place with
          | none => return none
          | some x =>
              match ← read rules s fuel explaining (.many tail) x.place with
              | none => return some x
              | some y =>
                  return some ⟨[y.trees.foldl Tree.behind (x.trees.headD default)], y.place⟩
      | .mistake p told otherwise => do
          if !explaining then return none
          match ← read rules s fuel explaining p place with
          | none => read rules s fuel explaining otherwise place
          | some x =>
              match told ⟨x.trees, levelBefore s x.place⟩ with
              | some m => throw (.mistake m)
              | none => return none
      | .quiet p => read rules s fuel false p place
termination_by structural fuel => fuel

end RouteGraft.Console.Literal
