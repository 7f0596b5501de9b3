import RouteGraft.Json.Value
import RouteGraft.Naming

/-!
# Fields of objects

Descriptions and configurations are read off objects field by field.  A field is
a text or a *flag*.  A text has to be a string.  Flags are read generously: the
numbers one and zero are flags as well, and so are twelve strings, in capitals
or small letters.  Of what is no flag some values are told apart as *unclear*:
other strings, and other integers that fit in 64 bits.

Every field is checked whatever the others are like, and all that is wrong is
reported, so a check of one field gives an outcome of its own and the outcomes
are put together at the end.
-/

namespace RouteGraft

/-- What is wrong with a field. -/
inductive FieldFault where
  /-- There is no such member. -/
  | missing
  /-- A text was expected. -/
  | notText
  /-- A flag was expected. -/
  | notFlag
  /-- A flag was expected, and the value looks like one but is not. -/
  | unclearFlag
  deriving DecidableEq, Repr

/-- The wording of a fault. -/
def FieldFault.message : FieldFault → String
  | .missing => "Field required"
  | .notText => "Input should be a valid string"
  | .notFlag => "Input should be a valid boolean"
  | .unclearFlag => "Input should be a valid boolean, unable to interpret input"

/-- A field with a fault. -/
structure FieldError where
  /-- The key of the field. -/
  key : String
  /-- What is wrong with it. -/
  fault : FieldFault
  deriving DecidableEq, Repr

/-! ## Values of fields -/

namespace Json

/-- A text. -/
def text : Json → Except FieldFault String
  | .string s => .ok s
  | _ => .error .notText

/-- A text or nothing. -/
def textOrNull : Json → Except FieldFault (Option String)
  | .null => .ok none
  | v => v.text.map some

/-- The strings that are flags, in small letters. -/
def flagWords : List (String × Bool) :=
  [("1", true), ("true", true), ("t", true), ("yes", true), ("y", true), ("on", true),
    ("0", false), ("false", false), ("f", false), ("no", false), ("n", false), ("off", false)]

/-- The flag that a string is. -/
def flagOfText (s : String) : Except FieldFault Bool :=
  let small := s.toList.map Naming.lower
  match flagWords.find? (·.1.toList = small) with
  | some (_, b) => .ok b
  | none => .error .unclearFlag

/-- The flag that an integer is, if `fits` says that it fits in 64 bits. -/
def flagOfInteger (n : Int) (fits : Bool) : Except FieldFault Bool :=
  if n = 0 then .ok false
  else if n = 1 then .ok true
  else if fits then .error .unclearFlag
  else .error .notFlag

/-- The integers that fit in 64 bits are below this bound, and not below its
negative. -/
def wordBound : Int := 9223372036854775808

/-- The flag that a number is. -/
def flagOfNumber : Number → Except FieldFault Bool
  | .integer n => flagOfInteger n (-wordBound ≤ n && n < wordBound)
  | .decimal negative digits exponent =>
      match Number.wholeOf? digits exponent with
      | some n => flagOfInteger (if negative then -(n : Int) else n) ((n : Int) < wordBound)
      | none => .error .notFlag
  | .nan => .error .notFlag
  | .infinite _ => .error .notFlag

/-- A flag. -/
def flag : Json → Except FieldFault Bool
  | .bool b => .ok b
  | .number n => flagOfNumber n
  | .string s => flagOfText s
  | _ => .error .notFlag

/-! ## Members as fields -/

/-- A field that may be missing. -/
def Members.field {α : Type} (ms : Members) (key : String)
    (read : Json → Except FieldFault α) (default : α) : Except FieldError α :=
  match ms.lookup? key with
  | none => .ok default
  | some v => (read v).mapError (⟨key, ·⟩)

/-- A field that must not be missing. -/
def Members.requiredField {α : Type} (ms : Members) (key : String)
    (read : Json → Except FieldFault α) : Except FieldError α :=
  match ms.lookup? key with
  | none => .error ⟨key, .missing⟩
  | some v => (read v).mapError (⟨key, ·⟩)

end Json

/-- What is wrong with a field, if anything. -/
def FieldError.ofOutcome {α : Type} : Except FieldError α → List FieldError
  | .ok _ => []
  | .error e => [e]

end RouteGraft
