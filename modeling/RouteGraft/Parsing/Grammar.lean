import RouteGraft.Parsing.Rule

/-!
# Grammars

A `Grammar` is what the rules of a language come to when they are asked the
questions of a parser: how a construct can go on from some place inside it, and
what can stand at its start.

An *item* is a production of a construct of which some symbols have been read.
What it says of the future is all it keeps.  The symbols that were read are
forgotten, so productions of one construct that agree in how many symbols they
have and in what is left share an item from there on.  Items are numbered by
how much has been read, then by construct, then in the order of the rules.

`firsts` holds the terminals that a symbol can start with.  `follow` answers
the same question from the other end.  Where a construct `b` may stand, each
construct `c` that `b` can start with may stand too, and the `Reach` of `c` in
`b` says which terminals can come behind it: some that the rules between them
name, and, if it is `open_`, also those that can come behind `b`.

A set of terminals is a number, whose bits are the terminals
(`Lookahead`).  The end of the text counts as one more terminal.

No production is empty.  So an item that nothing has been read of is never
complete.
-/

namespace RouteGraft.Parsing

/-- A set of terminals, one bit for each. -/
abbrev Lookahead := Nat

/-- The set of one terminal. -/
def Lookahead.one (t : Nat) : Lookahead := 1 <<< t

/-- The terminals of a set, of which all are below a bound. -/
def Lookahead.terminals (bound : Nat) (l : Lookahead) : List Nat :=
  if l = 0 then [] else (List.range bound).filter l.testBit

/-! ## Items -/

/-- What an item waits for. -/
structure Next where
  /-- The symbol that has to be read. -/
  symbol : Symbol
  /-- The terminals that can start what is behind the symbol, unless it is the
  last one. -/
  beyond : Option Lookahead
  /-- The item once the symbol is read. -/
  item : Nat
  deriving Repr, Inhabited

/-- A production of which some symbols have been read. -/
structure Item where
  /-- The construct, counted from the first one. -/
  construct : Nat
  /-- How many symbols have been read. -/
  size : Nat
  /-- The preference of the production. -/
  preference : Int
  /-- The rank of the symbol that was read last. -/
  rank : Rank
  /-- What comes now.  A complete item waits for nothing. -/
  next : Option Next
  deriving Repr, Inhabited

/-- Whether all of the production has been read. -/
def Item.isComplete (i : Item) : Bool := i.next.isNone

/-- How one construct is reached at the start of another. -/
structure Reach where
  /-- Terminals that can come behind it. -/
  ahead : Lookahead
  /-- Whether it can end where the other one ends. -/
  open_ : Bool
  deriving DecidableEq, Repr, Inhabited

namespace Reach

/-- Not at all. -/
def none : Reach := ⟨0, false⟩

/-- In one way or in another. -/
def or (a b : Reach) : Reach := ⟨a.ahead ||| b.ahead, a.open_ || b.open_⟩

/-- At the start of something that is itself reached so. -/
def through (outer inner : Reach) : Reach :=
  if inner.open_ then ⟨inner.ahead ||| outer.ahead, outer.open_⟩ else inner

end Reach

/-! ## Grammars -/

/-- The rules of a language, worked out for a parser. -/
structure Grammar where
  /-- The number of terminals.  The end of the text is the next one. -/
  terminals : Nat
  /-- Which constructs repeat a part. -/
  repeats : Array Bool
  items : Array Item
  /-- The items of each construct before anything of it is read. -/
  initial : Array (List Nat)
  /-- For each symbol the constructs that can start with it, as a part of
  theirs, with their items behind it. -/
  starters : Array (List (Nat × Nat))
  /-- The terminals that each symbol can start with. -/
  firsts : Array Lookahead
  /-- How each construct is reached at the start of each. -/
  follow : Array (Array Reach)
  /-- For each terminal those that could be taken for it. -/
  confusable : Array Lookahead

namespace Grammar

variable (g : Grammar)

/-- The number of constructs. -/
def constructs : Nat := g.initial.size

/-- The number of symbols. -/
def symbols : Nat := g.terminals + g.constructs

/-- The end of the text. -/
def endOfText : Nat := g.terminals

/-- An item by its number. -/
def item (i : Nat) : Item := g.items.getD i default

/-- The terminals a symbol can start with. -/
def first (s : Symbol) : Lookahead := g.firsts.getD s 0

/-- How a construct is reached at the start of another. -/
def reach (outer inner : Nat) : Reach := (g.follow.getD outer #[]).getD inner .none

end Grammar

/-! ## Working out a grammar -/

namespace Grammar

open Rule (Production Step)

/-- The rule of every construct, and which of them are repetitions.  A hidden
construct that is all one repetition needs no other one for it. -/
def lifted (terminals : Nat) (isHidden : Nat → Bool) (rules : List Rule) :
    List (Rule × Bool) :=
  let one (numbered : Rule × Nat) : StateM Rule.Lifted (Rule × Bool) :=
    match numbered with
    | (.repeated r, i) => do
        let part ← r.lift
        if isHidden i then return (Rule.repetition (terminals + i) part, true)
        else return (← (Rule.repeated part).lift, false)
    | (r, _) => do return (← r.lift, false)
  let (defined, more) := (rules.zipIdx.mapM one).run ⟨terminals + rules.length, #[]⟩
  defined ++ more.parts.toList.zipIdx.map fun (part, i) =>
    (Rule.repetition (more.first + i) part, true)

/-- One pass of `firstSets`. -/
def firstPass (terminals : Nat) (productions : Array (List Production))
    (sets : Array Lookahead) : Array Lookahead :=
  (productions.zipIdx).foldl (fun sets (ps, c) =>
    ps.foldl (fun sets p =>
      match p.steps with
      | [] => sets
      | s :: _ => sets.modify (terminals + c) (· ||| sets.getD s.symbol 0)) sets) sets

/-- The terminals that each symbol can start with. -/
def firstSets (terminals : Nat) (productions : Array (List Production)) : Array Lookahead :=
  let plain := (Array.range terminals).map Lookahead.one ++ productions.map fun _ => 0
  settle (productions.size + 1) plain
where
  /-- Passes until nothing changes, but not more than so many. -/
  settle : Nat → Array Lookahead → Array Lookahead
    | 0, sets => sets
    | n + 1, sets =>
        let more := firstPass terminals productions sets
        if more = sets then sets else settle n more

/-- A construct at the start of another one. -/
structure Edge where
  inner : Nat
  reach : Reach

/-- The constructs that the productions of a construct start with. -/
def edges (terminals : Nat) (firsts : Array Lookahead) (ps : List Production) : List Edge :=
  (ps.filterMap edge?).foldl add []
where
  /-- The construct that a production starts with. -/
  edge? (p : Production) : Option Edge :=
    match p.steps with
    | [] => none
    | [s] => if terminals ≤ s.symbol then some ⟨s.symbol - terminals, 0, true⟩ else none
    | s :: t :: _ =>
        if terminals ≤ s.symbol then
          some ⟨s.symbol - terminals, firsts.getD t.symbol 0, false⟩
        else none
  /-- Joins edges to the same construct. -/
  add : List Edge → Edge → List Edge
    | [], e => [e]
    | f :: rest, e =>
        if f.inner = e.inner then ⟨f.inner, f.reach.or e.reach⟩ :: rest else f :: add rest e

/-- How every construct is reached at the start of one.  The constructs still
to be looked at wait in a list. -/
def reachFrom (edges : Array (List Edge)) :
    (fuel : Nat) → List Nat → Array Reach → Array Reach
  | 0, _, row => row
  | _ + 1, [], row => row
  | fuel + 1, c :: waiting, row =>
      let here := row.getD c .none
      let (waiting, row) := (edges.getD c []).foldl (fun (waiting, row) e =>
        let old := row.getD e.inner .none
        let new := old.or (here.through e.reach)
        if new = old then (waiting, row)
        else (e.inner :: waiting, row.setIfInBounds e.inner new)) (waiting, row)
      reachFrom edges fuel waiting row

/-- How every construct is reached at the start of every other one. -/
def reaches (edges : Array (List Edge)) : Array (Array Reach) :=
  (Array.range edges.size).map fun c =>
    let start := (Array.replicate edges.size Reach.none).setIfInBounds c ⟨0, true⟩
    reachFrom edges (edges.size * edges.size) [c] start

/-- What an item is known by: what is left of it, and what will be asked of it
once it is complete. -/
structure ItemKey where
  size : Nat
  preference : Int
  rank : Rank
  rest : List Step
  deriving DecidableEq

/-- The item of a production of which so many symbols have been read, unless it
has less. -/
def itemKey? (read : Nat) (p : Production) : Option ItemKey :=
  if read ≤ p.steps.length then
    some ⟨p.steps.length, p.preference,
      (if read = 0 then .plain else (p.steps.getD (read - 1) default).rank), p.steps.drop read⟩
  else none

/-- The items of every construct after so many symbols. -/
def itemLevel (productions : Array (List Production)) (read : Nat) : Array (List ItemKey) :=
  productions.map fun ps => Rule.distinct (ps.filterMap (itemKey? read))

/-- The numbers of the first items of every construct, of which the first has a
given number, and the number behind them all. -/
def numbering (start : Nat) (level : Array (List ItemKey)) : Array Nat × Nat :=
  level.foldl (fun (starts, n) keys => (starts.push n, n + keys.length)) (#[], start)

/-- The number of an item of a construct on a level. -/
def itemNumber (level : Array (List ItemKey)) (starts : Array Nat) (c : Nat) (key : ItemKey) :
    Nat :=
  starts.getD c 0 + (level.getD c []).findIdx (· = key)

/-- The items of a level.  `next` is the level behind it, with the numbers of
its items. -/
def levelItems (firsts : Array Lookahead) (read : Nat) (level next : Array (List ItemKey))
    (starts : Array Nat) : List Item :=
  level.toList.zipIdx.flatMap fun (keys, c) => keys.map fun key =>
    { construct := c
      size := read
      preference := key.preference
      rank := key.rank
      next :=
        match key.rest with
        | [] => none
        | s :: rest =>
            some
              { symbol := s.symbol
                beyond := rest.head?.map fun t => firsts.getD t.symbol 0
                item := itemNumber next starts c { key with rank := s.rank, rest } } }

/-- All items from a level on, of which there are at most so many levels. -/
def allItems (firsts : Array Lookahead) (productions : Array (List Production)) :
    (levels read start : Nat) → List Item
  | 0, _, _ => []
  | levels + 1, read, start =>
      let level := itemLevel productions read
      let next := itemLevel productions (read + 1)
      let (_, stop) := numbering start level
      let (starts, _) := numbering stop next
      levelItems firsts read level next starts
        ++ allItems firsts productions levels (read + 1) stop

/-- For each construct its items of which nothing is read. -/
def initialItems (productions : Array (List Production)) : Array (List Nat) :=
  let level := itemLevel productions 0
  let (starts, _) := numbering 0 level
  level.zipIdx.map fun (keys, c) => (List.range keys.length).map (starts.getD c 0 + ·)

/-- For each symbol the constructs that can start with it, and their items. -/
def starterItems (symbols : Nat) (items : Array Item) : Array (List (Nat × Nat)) :=
  let empty : Array (List (Nat × Nat)) := Array.replicate symbols []
  items.foldr (fun i starters =>
    match i.size, i.next with
    | 0, some n => starters.modify n.symbol ((i.construct, n.item) :: ·)
    | _, _ => starters) empty

/-- The grammar of some rules.  The constructs are numbered by their place, and
`confusable` gives for each terminal those that could be taken for it. -/
def ofRules (terminals : Nat) (isHidden : Nat → Bool) (rules : List Rule)
    (confusable : Array Lookahead) : Grammar :=
  let defined := lifted terminals isHidden rules
  let productions := (defined.map fun d => d.1.productions).toArray
  let firsts := firstSets terminals productions
  let longest := productions.foldl (fun n ps => ps.foldl (fun n p => max n p.steps.length) n) 0
  let items := (allItems firsts productions (longest + 1) 0 0).toArray
  { terminals
    repeats := (defined.map (·.2)).toArray
    items
    initial := initialItems productions
    starters := starterItems (terminals + productions.size) items
    firsts
    follow := reaches (productions.map (edges terminals firsts))
    confusable }

end Grammar

end RouteGraft.Parsing
