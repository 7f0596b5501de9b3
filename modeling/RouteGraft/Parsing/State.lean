import RouteGraft.Parsing.Grammar

/-!
# States of a parser

A `State` is what a parser knows at a place of the text: the items that it may
be inside of, each with the terminals that may come behind its construct.  Only
items that have been read in part are kept.  Those that may start here follow
from them, and `begun` finds out what may come behind one.

`advance` gives the state behind a symbol.  `decide` says what a state allows
before a terminal.  A complete item can be *reduced*, and an item that waits
for the terminal lets it be *shifted*.  Ranks settle what they can.  Of several
complete items those of the highest level stay.  Where the terminal could be
shifted as well, the items that wait for it are compared with those that are
complete: a higher level of all of them wins, and on equal levels the side of
the complete items, if they have one and agree in it.  What is left open the
parser has to try.  Where a repetition both could end and could go on, it ends:
the parts are put together from the left.

## Agreement

Two states with the same items need not be the same, since different terminals
may come behind them.  They *agree* if a parser that takes the one for the
other notices nothing within one symbol: they decide alike on every terminal
that both expect, and no terminal that only one of them expects could be taken
for one that the other expects; and so do the states behind each symbol.  Of
what may come behind a complete item, one of them has to know all that the other
one knows.  States that agree can be joined.
-/

namespace RouteGraft.Parsing

/-- Items, in the order of their numbers, with what may come behind them. -/
abbrev State := List (Nat × Lookahead)

/-- A state with one more item. -/
def State.insert (i : Nat) (l : Lookahead) : State → State
  | [] => [(i, l)]
  | (j, m) :: rest =>
      if i < j then (i, l) :: (j, m) :: rest
      else if i = j then (j, m ||| l) :: rest
      else (j, m) :: State.insert i l rest

/-- What may come behind the items of either of two states. -/
def State.join (a b : State) : State := a.foldl (fun s (i, l) => s.insert i l) b

/-- Whether a terminal is read on. -/
inductive Shift where
  /-- It is not. -/
  | never
  | always
  /-- It is, but only to go on with a repetition that could also end. -/
  | repeats
  deriving DecidableEq, Repr

/-- What a state allows before a terminal. -/
structure Decision where
  /-- The complete items that can be reduced. -/
  reduced : List Nat
  /-- Whether the terminal can be shifted. -/
  shift : Shift
  deriving DecidableEq, Repr

namespace Grammar

variable (g : Grammar)

/-- The state before a construct that is all of the text. -/
def start (construct : Nat) : State :=
  (g.initial.getD construct []).map (·, .one g.endOfText)

/-! ## Going on -/

/-- The terminals a state expects. -/
def expects (s : State) : Lookahead :=
  s.foldl (fun all (i, l) =>
    match (g.item i).next with
    | some n => all ||| g.first n.symbol
    | none => all ||| l) 0

/-- The constructs that a state waits for, and what may come behind them. -/
def awaited (s : State) : List (Nat × Lookahead) :=
  s.filterMap fun (i, l) =>
    match (g.item i).next with
    | some n =>
        if g.terminals ≤ n.symbol then some (n.symbol - g.terminals, n.beyond.getD l) else none
    | none => none

/-- What may come behind a construct that starts where others are awaited.
Nothing may if it cannot start there. -/
def begun (awaited : List (Nat × Lookahead)) (construct : Nat) : Lookahead :=
  awaited.foldl (fun all (b, l) =>
    let r := g.reach b construct
    all ||| r.ahead ||| (if r.open_ then l else 0)) 0

/-- The state behind a symbol. -/
def advance (s : State) (x : Symbol) : State :=
  let goOn : State := s.foldl (fun t (i, l) =>
    match (g.item i).next with
    | some n => if n.symbol = x then t.insert n.item l else t
    | none => t) []
  let awaited := g.awaited s
  (g.starters.getD x []).foldl (fun t (c, i) =>
    let l := g.begun awaited c
    if l = 0 then t else t.insert i l) goOn

/-! ## Decisions -/

/-- The complete items of a state before a terminal. -/
def complete (s : State) (t : Nat) : List Nat :=
  s.filterMap fun (i, l) => if (g.item i).isComplete && l.testBit t then some i else none

/-- The items of a state that have been started and wait for a terminal. -/
def waiting (s : State) (t : Nat) : List Nat :=
  s.filterMap fun (i, _) =>
    match g.item i with
    | { size := _ + 1, next := some n, .. } =>
        if (g.first n.symbol).testBit t then some i else none
    | _ => none

/-- Whether a state can read a terminal on. -/
def canShift (s : State) (t : Nat) : Bool :=
  s.any fun (i, _) => (g.item i).next.any fun n => (g.first n.symbol).testBit t

/-- The level of the last symbol of an item. -/
def level (i : Nat) : Int := (g.item i).rank.level

/-- The items of the highest level. -/
def highest (is : List Nat) : List Nat :=
  is.filter fun i => is.all fun j => g.level j ≤ g.level i

/-- Whether all items have a side. -/
def allOn (side : Side) (is : List Nat) : Bool :=
  is.all fun i => (g.item i).rank.side = some side

/-- Whether all items belong to one repetition. -/
def oneRepetition : List Nat → Bool
  | [] => false
  | i :: rest =>
      g.repeats.getD (g.item i).construct false
        && rest.all fun j => (g.item j).construct = (g.item i).construct

/-- What becomes of complete items where the terminal could also be shifted.
`waiting` are the items that wait for it, and `reduced` is not empty. -/
def settle (waiting reduced : List Nat) : Decision :=
  let stronger := waiting.any fun i => reduced.any fun j => g.level j < g.level i
  let weaker := waiting.any fun i => reduced.any fun j => g.level i < g.level j
  match stronger, weaker with
  | true, false => ⟨[], .always⟩
  | false, true => ⟨reduced, .never⟩
  | true, true => ⟨reduced, .always⟩
  | false, false =>
      if g.allOn .left reduced then ⟨reduced, .never⟩
      else if g.allOn .right reduced then ⟨[], .always⟩
      else ⟨reduced, .always⟩

/-- What a state allows before a terminal. -/
def decide (s : State) (t : Nat) : Decision :=
  let complete := g.complete s t
  let reduced := g.highest complete
  if !g.canShift s t then ⟨reduced, .never⟩
  else if reduced.isEmpty then ⟨[], .always⟩
  else
    let waiting := g.waiting s t
    if g.oneRepetition (waiting ++ complete) then ⟨reduced, .repeats⟩
    else g.settle waiting reduced

/-! ## Agreement -/

/-- Whether two states have the same items. -/
def sameItems (a b : State) : Bool := a.map (·.1) = b.map (·.1)

/-- The terminals that may come behind a complete item of only one of two
states with the same items. -/
def contested (a b : State) : Lookahead :=
  (a.zip b).foldl (fun all ((i, l), (_, m)) =>
    if (g.item i).isComplete then all ||| (l ^^^ m) else all) 0

/-- Whether no terminal of the first set could be taken for one of the second. -/
def apart (only expected : Lookahead) : Bool :=
  (only.terminals g.terminals).all fun t => g.confusable.getD t 0 &&& expected = 0

/-- Whether two states with the same items decide alike. -/
def agreeHere (a b : State) : Bool :=
  let inA := g.expects a
  let inB := g.expects b
  let both := inA &&& inB
  ((g.contested a b &&& both).terminals (g.terminals + 1)).all
      (fun t => g.decide a t = g.decide b t)
    && g.apart (inA ^^^ both) inB && g.apart (inB ^^^ both) inA

/-- Whether for each complete item of two states with the same items one of them
knows all that the other one knows of what may come behind it. -/
def nested (a b : State) : Bool :=
  (a.zip b).all fun ((i, l), (_, m)) =>
    !(g.item i).isComplete || l &&& m = l || l &&& m = m

/-- Whether two states decide alike, and the states behind each symbol too. -/
def agree (a b : State) : Bool :=
  a = b || sameItems a b && g.nested a b && g.agreeHere a b
    && (List.range g.symbols).all fun x =>
      match g.advance a x with
      | [] => true
      | a' => (x < g.terminals && (g.decide a x).shift = .never) || g.agreeHere a' (g.advance b x)

end Grammar

end RouteGraft.Parsing
