/-!
# Rules of a grammar

A grammar says of each *construct* what it consists of, by a `Rule` over
*symbols*.  A symbol is a number: the terminals come first, and the constructs
follow them.  Which number means what is up to the user of the grammar.

Besides sequence, choice and repetition a rule can say how strongly its parts
hold together.  A *rank* is a level and a side.  Where a construct could end and
could as well go on, the higher level wins, and on equal levels the left side
ends it and the right side goes on.  A *preference* decides later: of two
complete readings of the same text the preferred one is kept.

A rule stands for a set of *productions*, the sequences of symbols it allows.
`productions` lists them in the order in which the alternatives are written.
Each step of a production has the rank of the innermost ranked part that it
belongs to.  A rank says how the construct ends, so it counts behind the last
symbol of its part only where that part ends the whole rule.

A repetition is no sequence of a fixed length.  `Rule.lift` gives each
repeated part a construct of its own, which is either two of itself or one of
the part.  Equal parts share that construct.
-/

namespace RouteGraft.Parsing

/-- A terminal or a construct, by its number. -/
abbrev Symbol := Nat

/-- The sides that win a tie. -/
inductive Side where
  | left
  | right
  deriving DecidableEq, Repr

/-- How strongly a part of a rule holds together. -/
structure Rank where
  /-- The level.  Parts without one are on level zero. -/
  level : Int
  /-- The side that wins on equal levels. -/
  side : Option Side
  deriving DecidableEq, Repr, Inhabited

/-- The rank of a part that has none. -/
def Rank.plain : Rank := ⟨0, none⟩

/-- What a construct consists of. -/
inductive Rule where
  /-- Nothing at all. -/
  | nothing
  | symbol (s : Symbol)
  /-- One part and then another. -/
  | seq (a b : Rule)
  /-- One of two parts. -/
  | alt (a b : Rule)
  /-- One or more of a part. -/
  | repeated (r : Rule)
  /-- A part on a level.  Without a side it keeps that of the part around it. -/
  | ranked (level : Int) (side : Option Side) (r : Rule)
  /-- A part that is preferred to other readings of its text. -/
  | favoured (preference : Int) (r : Rule)
  deriving DecidableEq, Repr

namespace Rule

instance : Append Rule := ⟨seq⟩

instance : OrOp Rule := ⟨alt⟩

/-- A part that may be missing. -/
def optional (r : Rule) : Rule := r ||| nothing

/-- Any number of a part. -/
def many (r : Rule) : Rule := optional (repeated r)

/-! ## Productions -/

/-- A symbol of a production with its rank. -/
structure Step where
  symbol : Symbol
  rank : Rank
  deriving DecidableEq, Repr, Inhabited

/-- A sequence of symbols that a rule allows. -/
structure Production where
  /-- How much the production is preferred. -/
  preference : Int
  steps : List Step
  deriving DecidableEq, Repr, Inhabited

/-- The sequences a rule allows, as rules without a choice. -/
def choices : Rule → List Rule
  | seq a b => (choices a).flatMap fun x => (choices b).map (seq x)
  | alt a b => choices a ++ choices b
  | ranked level side r => (choices r).map (ranked level side)
  | favoured preference r => (choices r).map (favoured preference)
  | r => [r]

/-- Steps whose last one has another rank. -/
def withLastRank (rank : Rank) : List Step → List Step
  | [] => []
  | [s] => [{ s with rank }]
  | s :: rest => s :: withLastRank rank rest

/-- The steps of a rule without a choice.  `outer` is the rank of the part
around it, and `ends` says whether nothing of the construct follows. -/
def steps (outer : Rank) (ends : Bool) : Rule → List Step
  | symbol s => [⟨s, outer⟩]
  | seq a b => steps outer false a ++ steps outer ends b
  | ranked level side r =>
      let inside := steps ⟨level, side.or outer.side⟩ ends r
      if ends then inside else withLastRank outer inside
  | favoured _ r => steps outer ends r
  | _ => []

/-- The preference of a rule without a choice: the greatest, by size, of those
that are written in it. -/
def preference : Rule → Int
  | seq a b => greater (preference a) (preference b)
  | ranked _ _ r => preference r
  | favoured p r => greater p (preference r)
  | _ => 0
where
  /-- The greater of two preferences, and the first of two that are equal. -/
  greater (p q : Int) : Int := if q.natAbs > p.natAbs then q else p

/-- A list without the later ones of equal elements. -/
def distinct {α : Type} [DecidableEq α] (xs : List α) : List α :=
  (xs.foldl (fun kept x => if kept.contains x then kept else x :: kept) []).reverse

/-- The productions of a rule. -/
def productions (r : Rule) : List Production :=
  distinct (r.choices.map fun c => ⟨c.preference, c.steps .plain true⟩)

/-! ## Repetitions -/

/-- The repeated parts met so far.  The construct of the first has the number
`first`, and the others follow it. -/
structure Lifted where
  first : Symbol
  parts : Array Rule

/-- The rule of a construct, of the given number, that repeats a part. -/
def repetition (self : Symbol) (part : Rule) : Rule := seq (symbol self) (symbol self) ||| part

/-- A rule with constructs in the place of its repeated parts. -/
def lift : Rule → StateM Lifted Rule
  | seq a b => do return seq (← lift a) (← lift b)
  | alt a b => do return alt (← lift a) (← lift b)
  | ranked level side r => do return ranked level side (← lift r)
  | favoured preference r => do return favoured preference (← lift r)
  | repeated r => do
      let part ← lift r
      let lifted ← get
      match lifted.parts.findIdx? (· = part) with
      | some i => return symbol (lifted.first + i)
      | none =>
          set { lifted with parts := lifted.parts.push part }
          return symbol (lifted.first + lifted.parts.size)
  | r => return r

end Rule

end RouteGraft.Parsing
