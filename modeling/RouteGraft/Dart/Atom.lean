import RouteGraft.Dart.Piece
import RouteGraft.Dart.Grammar

/-!
# Texts for the parser

The parser reads pieces as a row of *atoms*: tokens with the comments in front
of them, brackets among them.  An atom that opens a block knows how many atoms
belong to the block, so that it can be read as a whole.

`readTerminal` is how the parser gets its terminals.  A word is the keyword it
spells if that is expected, and a name otherwise.  A star can belong to the
word in front of it.  A sign is the longest one that is expected and that the
characters at its place spell, with nothing between them.  A curly bracket
opens a block if one is expected.

A closure whose value is missing is followed by a comma or a closing bracket.
There an atom stands for the value, which takes up no room (`Lexeme.nothing`).
-/

namespace RouteGraft.Dart

open Parsing (Lookahead Source)

/-! ## Atoms -/

/-- A token of a text for the parser. -/
structure Atom where
  /-- The token and the comments in front of it. -/
  leaf : Leaf
  /-- The number of atoms of the block that the token opens, or zero. -/
  block : Nat
  deriving Repr

namespace Atom

/-- What the token of an atom is. -/
def lexeme (a : Atom) : Lexeme := a.leaf.token.lexeme

/-- Whether nothing stands between an atom and the one before it. -/
def isGlued (a : Atom) : Bool := a.leaf.comments.isEmpty && a.leaf.token.glued

/-- An atom that takes up no room behind some place. -/
def empty (l : Lexeme) (place : Nat) : Atom := ⟨⟨[], ⟨l, place, place, true⟩⟩, 0⟩

/-- The place behind an atom. -/
def stop (a : Atom) : Nat := a.leaf.token.stop

end Atom

/-- How much of an arrow stands in front of a piece. -/
inductive ArrowPart where
  | none
  /-- The sign of assignment, which may be the first half. -/
  | half
  /-- All of it, up to a place. -/
  | whole (stop : Nat)

/-- How much of an arrow there is behind a token. -/
def ArrowPart.after (part : ArrowPart) (l : Leaf) : ArrowPart :=
  match l.token.lexeme, part with
  | .sign '=', _ => .half
  | .sign '>', .half => if l.token.glued && l.comments.isEmpty then .whole l.token.stop else .none
  | _, _ => .none

/-- The atom that stands for a missing value behind an arrow. -/
def ArrowPart.missing : ArrowPart → List Atom
  | .whole stop => [.empty .nothing stop]
  | _ => []

/-- The atoms of some pieces behind a part of an arrow. -/
def atomsFrom (part : ArrowPart) : List Piece → List Atom
  | [] => part.missing
  | .leaf l :: rest =>
      let gap := if l.token.lexeme = .sign ',' then part.missing else []
      gap ++ ⟨l, 0⟩ :: atomsFrom (part.after l) rest
  | .group b opening inside closing :: rest =>
      let content := atomsFrom .none inside
      let block := if b = .curly then content.length + 2 else 0
      ⟨opening, block⟩ :: content ++ ⟨closing, 0⟩ :: atomsFrom .none rest

/-- The atoms of some pieces. -/
def atoms (ps : List Piece) : Array Atom := (atomsFrom .none ps).toArray

/-! ## Terminals -/

/-- The signs and their spellings, of which the shorter ones come later.  Of
two terminals with one spelling the one that has no other spelling comes
first. -/
def spelledSigns : List (List Char × Terminal) :=
  let spelled := Terminal.all.flatMap fun t => t.spellings.map (·, t)
  let single := spelled.filter fun (_, t) => t.spellings.length = 1
  let other := spelled.filter fun (_, t) => t.spellings.length ≠ 1
  [4, 3, 2, 1].flatMap fun n => (single ++ other).filter (·.1.length = n)

/-- Whether atoms from a place on spell some characters.  All but the first are
glued. -/
def spells (text : Array Atom) : (place : Nat) → (isFirst : Bool) → List Char → Bool
  | _, _, [] => true
  | place, isFirst, c :: rest =>
      match text[place]? with
      | some a =>
          a.lexeme = .sign c && (isFirst || a.isGlued) && spells text (place + 1) false rest
      | none => false

/-- Whether a terminal is among those that are expected. -/
def isExpected (expected : Lookahead) (t : Terminal) : Bool := expected.testBit t.symbol

/-- The sign at a place. -/
def readSign (text : Array Atom) (expected : Lookahead) (place : Nat) : Option (Terminal × Nat) :=
  (spelledSigns.find? fun (spelling, t) =>
    isExpected expected t && spells text place true spelling).map fun (spelling, t) =>
      (t, place + spelling.length)

/-- The word at a place, which spells a keyword or none. -/
def readWord (text : Array Atom) (expected : Lookahead) (place : Nat) (keyword : Option Terminal) :
    Option (Terminal × Nat) :=
  let starred := (keyword.bind Terminal.withStar?).filter fun t =>
    isExpected expected t && spells text (place + 1) false ['*']
  let plain := keyword.filter fun t => isExpected expected t && t.withStar? ≠ some t
  match starred, plain with
  | some t, _ => some (t, place + 2)
  | none, some t => some (t, place + 1)
  | none, none => if isExpected expected .name then some (.name, place + 1) else none

/-- The terminal that a number is. -/
def NumberForm.terminal : NumberForm → Terminal
  | .decimal => .decimalNumber
  | .floating => .floatingNumber
  | .hex => .hexNumber

/-- The terminal at a place, where some are expected, and the place behind it. -/
def readTerminal (text : Array Atom) (expected : Lookahead) (place : Nat) :
    Option (Terminal × Nat) :=
  let one (t : Terminal) := if isExpected expected t then some (t, place + 1) else none
  match text[place]? with
  | none => none
  | some a =>
      match a.lexeme with
      | .word keyword => readWord text expected place keyword
      | .number form => one form.terminal
      | .text => one .text
      | .nothing => one .missing
      | .sign '{' =>
          if a.block ≠ 0 && isExpected expected .block then some (.block, place + a.block)
          else one .openBrace
      | .sign _ => readSign text expected place
      | _ => none

/-- Atoms as a text for the parser. -/
def source (text : Array Atom) : Source where
  size := text.size
  read expected place := (readTerminal text expected place).map fun (t, stop) => (t.symbol, stop)
  otherwise t := if (Terminal.ofNat t).isFlexible then some Terminal.name.symbol else none

end RouteGraft.Dart
