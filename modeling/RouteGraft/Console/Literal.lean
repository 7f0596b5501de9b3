import RouteGraft.Console.Literal.Rules

/-!
# Literals

A handler may be given values, and these are literals: numbers, texts, the words
`True`, `False` and `None`, and literals in round or curly brackets with commas
in between.  Nothing is done with the values.  What matters is whether a text is
a literal and, if it is not, which fault is told (`fault?`).

An expression that holds more than literals is *malformed*.  Adding an imaginary
number to another one is the only computation in a literal, a sign may stand in
front of a number, and the empty set is written as a call.  What is in a set, or
is a key of a dictionary, can be no set and no dictionary.
-/

namespace RouteGraft.Console.Literal

/-! ## Values -/

/-- Whether an expression is a number, and an imaginary one. -/
def number? : Tree → Option Bool
  | .leaf (.number imaginary _) => some imaginary
  | _ => none

/-- Whether an expression is a number, perhaps with a sign, and an imaginary
one. -/
def signedNumber? : Tree → Option Bool
  | .node .signed [t] => number? t
  | t => number? t

/-- The sets and dictionaries that an expression may not be looked up for, if it
is a literal: the first of them, or none. -/
abbrev Value := Except Fault (Option String)

/-- Whether a sum is a literal. -/
def sumValue : List Tree → Value
  | [a, b] =>
      if signedNumber? a = some false && number? b = some true then .ok none
      else .error .malformed
  | _ => .error .malformed

/-- A value that is looked up. -/
def lookedUp : Value → Value
  | .ok (some what) => .error (.unhashable what)
  | v => v

mutual

/-- The value of an expression. -/
def value : Tree → Value
  | .leaf (.number ..) | .leaf (.text _ false _) | .leaf (.constant _) | .leaf .dots => .ok none
  | .leaf _ => .error .malformed
  | .node .tuple parts => tupleValue parts
  | .node .set parts =>
      match setValue parts with
      | some e => .error e
      | none => .ok (some "set")
  | .node .dictionary parts =>
      match dictionaryValue parts with
      | some e => .error e
      | none => .ok (some "dict")
  | .node .call [.leaf (.name "set")] => .ok (some "set")
  | .node .signed [t] => if (number? t).isSome then .ok none else .error .malformed
  | .node .sum parts => sumValue parts
  | .node _ _ => .error .malformed

/-- The value of a tuple. -/
def tupleValue : List Tree → Value
  | [] => .ok none
  | t :: rest =>
      match value t, tupleValue rest with
      | .error e, _ | .ok _, .error e => .error e
      | .ok (some what), .ok _ => .ok (some what)
      | .ok none, .ok v => .ok v

/-- What is wrong with the values of a set. -/
def setValue : List Tree → Option Fault
  | [] => none
  | t :: rest =>
      match lookedUp (value t) with
      | .error e => some e
      | .ok _ => setValue rest

/-- What is wrong with the entries of a dictionary. -/
def dictionaryValue : List Tree → Option Fault
  | [] => none
  | .node .pair [key, v] :: rest =>
      match value key, value v with
      | .error e, _ | .ok _, .error e => some e
      | .ok (some what), .ok _ => some (.unhashable what)
      | .ok none, .ok _ => dictionaryValue rest
  | _ => some .nothingLookedUp

end

/-! ## Faults -/

/-- How deep patterns may be in one another for so many tokens. -/
def depthFor (tokens : Nat) : Nat := 400 * (tokens + 2)

/-- Reads a whole text. -/
def readWhole (s : Source) (explaining : Bool) (m : Memory) :
    Except Fault (Option Found) × Memory :=
  read rules s (depthFor s.tokens.size) explaining (.rule .whole) 0 m

/-- What is told of a fault if reading has got to a token.  A fault of the text
behind it is told first, and so is a bracket of an earlier line that is open at
the end. -/
def toldAt (s : Source) (furthest : Nat) (e : Fault) : Fault :=
  match s.tokens[furthest]?, s.atEnd with
  | some t, some b =>
      if b.isUrgent then b.fault
      else
        match b.bracket with
        | some o => if o.line < t.line then .neverClosed o.bracket else e
        | none => e
  | _, _ => e

/-- What is told of a fault that reading has ended with. -/
def toldThere (s : Source) (furthest : Nat) (e : Fault) : Fault :=
  if furthest + 1 = s.tokens.size && s.atEnd.any BadEnd.isSeen then e else toldAt s furthest e

/-- What is wrong with a text that cannot be read as far as `m` tells. -/
def explain (s : Source) (m : Memory) : Fault :=
  match readWhole s true { m with known := ∅ } with
  | (.error e, m') => toldThere s m'.furthest e
  | (.ok _, m') =>
      if (s.tokens[m.furthest]?.map Placed.token) = some .indent then .indented
      else toldAt s m'.furthest .strangeToken

/-- What is wrong with the tokens of a text, if anything is. -/
def sourceFault? (s : Source) : Option Fault :=
  match readWhole s false {} with
  | (.error e, m) => some (toldThere s m.furthest e)
  | (.ok none, m) => some (explain s m)
  | (.ok (some found), _) =>
      match value (found.trees.headD default) with
      | .error e => some e
      | .ok _ => none

/-- What keeps a text from being a literal, if anything does. -/
def fault? (cs : List Char) : Option Fault :=
  if cs.contains '\x00' then some .nul
  else
    let s := scan cs
    sourceFault? ⟨s.tokens.toArray, s.atEnd⟩

end RouteGraft.Console.Literal
