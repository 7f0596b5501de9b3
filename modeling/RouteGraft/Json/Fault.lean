import RouteGraft.Text.Utf8

/-!
# Faults in a document

A reader takes the rest of the document and gives what it has read and the
rest behind that.  Where it stops because of a *fault* it gives the fault and
the rest that starts with the byte at fault, which is empty if the fault is
the end of the document.  A place in the document is never counted while
reading: it is told by how much is left (`Position.ofRest`).
-/

namespace RouteGraft.Json

/-- What stops a reader. -/
inductive Fault where
  /-- The document ends where a value has to start, or inside a word or number. -/
  | endInValue
  /-- It ends inside an object. -/
  | endInObject
  /-- It ends inside an array. -/
  | endInArray
  /-- It ends inside a string. -/
  | endInString
  /-- No value starts with the byte. -/
  | expectedValue
  /-- The byte is not the next one of the word that was started. -/
  | expectedWord
  /-- A key has to start here and does not. -/
  | expectedKey
  /-- A colon has to stand here. -/
  | expectedColon
  /-- A comma or the end of the object has to stand here. -/
  | expectedObjectEnd
  /-- A comma or the end of the array has to stand here. -/
  | expectedArrayEnd
  /-- The array or object ends behind a comma. -/
  | trailingComma
  /-- Something stands behind the document. -/
  | trailingCharacters
  /-- The byte does not continue the number. -/
  | invalidNumber
  /-- The integer is too long. -/
  | numberTooLong
  /-- The byte is a control character inside a string. -/
  | controlCharacter
  /-- The byte does not continue an escape. -/
  | invalidEscape
  /-- The first half of a surrogate pair has no second one. -/
  | unfinishedPair
  /-- The second half of a surrogate pair has no first one, or the first one is
  followed by something else. -/
  | loneSurrogate
  /-- The byte starts something that is no UTF-8. -/
  | invalidUtf8
  /-- Arrays and objects are nested too deep. -/
  | tooDeep
  deriving DecidableEq, Repr

/-- The wording of a fault. -/
def Fault.message : Fault → String
  | .endInValue => "EOF while parsing a value"
  | .endInObject => "EOF while parsing an object"
  | .endInArray => "EOF while parsing a list"
  | .endInString => "EOF while parsing a string"
  | .expectedValue => "expected value"
  | .expectedWord => "expected ident"
  | .expectedKey => "key must be a string"
  | .expectedColon => "expected \x60:\x60"
  | .expectedObjectEnd => "expected \x60,\x60 or \x60\x7d\x60"
  | .expectedArrayEnd => "expected \x60,\x60 or \x60]\x60"
  | .trailingComma => "trailing comma"
  | .trailingCharacters => "trailing characters"
  | .invalidNumber => "invalid number"
  | .numberTooLong => "number out of range"
  | .controlCharacter => "control character (\\u0000-\\u001F) found while parsing a string"
  | .invalidEscape => "invalid escape"
  | .unfinishedPair => "unexpected end of hex escape"
  | .loneSurrogate => "lone leading surrogate in hex escape"
  | .invalidUtf8 => "invalid unicode code point"
  | .tooDeep => "recursion limit exceeded"

/-- A fault and the rest of the document that starts with it. -/
abbrev Stop := Fault × Bytes

/-! ## Places -/

/-- A line, counted from one, and the number of its bytes up to and with the
one at fault.  A fault at a line break belongs to the next line. -/
structure Position where
  /-- The line. -/
  line : Nat
  /-- The column. -/
  column : Nat
  deriving DecidableEq, Repr

/-- The place where the rest of a document starts. -/
def Position.ofRest (document rest : Bytes) : Position :=
  let seen := document.take (document.length - rest.length + 1)
  ⟨1 + seen.count 0x0A, (seen.reverse.takeWhile (· ≠ 0x0A)).length⟩

/-- Why a document could not be read. -/
structure ReadError where
  /-- The fault. -/
  fault : Fault
  /-- Its place. -/
  position : Position
  deriving DecidableEq, Repr

/-- The wording of the refusal. -/
def ReadError.message (e : ReadError) : String :=
  e.fault.message ++ " at line " ++ toString e.position.line ++ " column "
    ++ toString e.position.column

example : Position.ofRest [0x7B, 0x0A, 0x62] [0x62] = ⟨2, 1⟩ := by decide
example : Position.ofRest [0x7B, 0x0A, 0x62] [0x0A, 0x62] = ⟨2, 0⟩ := by decide
example : Position.ofRest [0x7B] [] = ⟨1, 1⟩ := by decide

end RouteGraft.Json
