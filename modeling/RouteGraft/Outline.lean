import RouteGraft.Text.Span

/-!
# Outlines

An outline is what the program needs to know of a Dart source: its classes, in
order, with what they extend and implement, their members, and the lists that
members return.  It holds names and offsets and nothing else; the source stays
what it is.

A list that a member returns is known down to the lists in it, as long as they
are reached by calls with named arguments: the elements of a list, the name
each of them calls, its named arguments, and those arguments that are lists
again.
-/

namespace RouteGraft

/-! ## Lists -/

/-- A named argument of a call.  `L` is the type of the lists in it. -/
structure NamedArgumentOf (L : Type) where
  /-- Its name. -/
  name : String
  /-- The place of the name and the value. -/
  span : Span
  /-- The value, if it is a list. -/
  value : Option L
  deriving Repr

/-- An element of a list. -/
structure ListElementOf (L : Type) where
  /-- Its place. -/
  span : Span
  /-- The plain name it calls, if it is a call of one and nothing more. -/
  callee : Option String
  /-- The named arguments of that call. -/
  namedArguments : List (NamedArgumentOf L)
  deriving Repr

/-- A list as it is written in a source. -/
structure ListLiteral where
  /-- Its place. -/
  span : Span
  /-- The offset of its closing bracket. -/
  rightBracket : Int
  /-- Its elements, in order. -/
  elements : List (ListElementOf ListLiteral)
  /-- Whether a comma follows the last element. -/
  hasTrailingComma : Bool
  deriving Repr

/-- An element of a list. -/
abbrev ListElement := ListElementOf ListLiteral

/-- A named argument of an element of a list. -/
abbrev NamedArgument := NamedArgumentOf ListLiteral

/-! ## Classes -/

/-- The kinds of members of a class. -/
inductive MemberKind where
  | method
  | getter
  | setter
  deriving DecidableEq, Repr

/-- The forms of the body of a member. -/
inductive BodyKind where
  /-- An arrow and an expression. -/
  | expression
  /-- Statements in braces. -/
  | block
  deriving DecidableEq, Repr

/-- A method, getter or setter of a class. -/
structure Member where
  /-- Its name. -/
  name : String
  /-- What it is. -/
  kind : MemberKind
  /-- The form of its body.  An abstract member has none. -/
  bodyKind : Option BodyKind := none
  /-- The kind of the expression that is its body. -/
  expressionType : Option String := none
  /-- The list that is its body. -/
  returnedList : Option ListLiteral := none
  deriving Repr

/-- A class of a source. -/
structure ClassOutline where
  /-- Its name. -/
  name : String
  /-- Its place, from its first annotation to its closing brace. -/
  span : Span
  /-- The type it extends, as it is written. -/
  superclass : Option String
  /-- The plain name of that type. -/
  superclassName : Option String
  /-- The plain names of the types it implements. -/
  interfaces : List String
  /-- The offset of its closing brace. -/
  closingBrace : Int
  /-- Its members, in order. -/
  members : List Member
  deriving Repr

/-- The first member of a name. -/
def ClassOutline.member? (c : ClassOutline) (name : String) : Option Member :=
  c.members.find? (·.name = name)

/-- The list that the first member of a name returns.  There is none if the
member is missing or its body is anything but a list behind an arrow. -/
def ClassOutline.returnedList? (c : ClassOutline) (name : String) : Option ListLiteral :=
  match c.member? name with
  | some m => if m.bodyKind = some .expression then m.returnedList else none
  | none => none

/-- What the program knows of a source. -/
structure Outline where
  /-- The classes, in order. -/
  classes : List ClassOutline
  deriving Repr

end RouteGraft
