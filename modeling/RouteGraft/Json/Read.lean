import RouteGraft.Json.Scalar
import RouteGraft.Json.Value

/-!
# Reading JSON

A document is one value with blanks around it.  Arrays and objects with values
in them may be nested 200 deep, and the readers follow this limit: the reader at
a depth reads arrays and objects whose values are read by the reader at the
depth below, and at depth zero every value is one too many (`tooDeep`).

The elements of an array are counted down from the length of the rest of the
document, which they cannot reach, since each of them has a byte.
-/

namespace RouteGraft.Json

namespace Reader

/-- A reader of values, at the first byte of the value. -/
abbrev ValueReader := Bytes → Except Stop (Json × Bytes)

/-! ## Arrays -/

/-- The elements of an array, at the first byte of one of them, and its end. -/
def elements (value : ValueReader) : (limit : Nat) → Bytes → Except Stop (List Json × Bytes)
  | 0, _ => .error (.endInArray, [])
  | limit + 1, s => do
      let (v, rest) ← value s
      match skipBlanks rest with
      | [] => .error (.endInArray, [])
      | b :: more =>
          if b = byte ']' then return ([v], more)
          else if b = byte ',' then
            match skipBlanks more with
            | [] => .error (.endInValue, [])
            | c :: behind =>
                if c = byte ']' then .error (.trailingComma, c :: behind)
                else do
                  let (vs, rest) ← elements value limit (c :: behind)
                  return (v :: vs, rest)
          else .error (.expectedArrayEnd, b :: more)
termination_by structural limit => limit

/-- An array behind its opening bracket. -/
def array (value : ValueReader) (s : Bytes) : Except Stop (Json × Bytes) :=
  match skipBlanks s with
  | [] => .error (.endInArray, [])
  | b :: rest =>
      if b = byte ']' then .ok (.array [], rest)
      else (elements value s.length (b :: rest)).map fun (vs, rest) => (.array vs, rest)

/-! ## Objects -/

/-- A member of an object, at the first byte of its key. -/
def member (value : ValueReader) (s : Bytes) : Except Stop ((String × Json) × Bytes) :=
  match s with
  | [] => .error (.endInObject, [])
  | b :: rest =>
      if b = byte '"' then do
        let (key, rest) ← string rest
        match skipBlanks rest with
        | [] => .error (.endInObject, [])
        | c :: more =>
            if c = byte ':' then do
              let (v, rest) ← value (skipBlanks more)
              return ((key, v), rest)
            else .error (.expectedColon, c :: more)
      else .error (.expectedKey, s)

/-- The members of an object, at the first byte of one of them, and its end. -/
def members (value : ValueReader) : (limit : Nat) → Bytes → Except Stop (Members × Bytes)
  | 0, _ => .error (.endInObject, [])
  | limit + 1, s => do
      let (m, rest) ← member value s
      match skipBlanks rest with
      | [] => .error (.endInObject, [])
      | b :: more =>
          if b = byte '\x7d' then return ([m], more)
          else if b = byte ',' then
            match skipBlanks more with
            | [] => .error (.endInValue, [])
            | c :: behind =>
                if c = byte '\x7d' then .error (.trailingComma, c :: behind)
                else do
                  let (ms, rest) ← members value limit (c :: behind)
                  return (m :: ms, rest)
          else .error (.expectedObjectEnd, b :: more)
termination_by structural limit => limit

/-- An object behind its opening brace. -/
def object (value : ValueReader) (s : Bytes) : Except Stop (Json × Bytes) :=
  match skipBlanks s with
  | [] => .error (.endInObject, [])
  | b :: rest =>
      if b = byte '\x7d' then .ok (.object [], rest)
      else (members value s.length (b :: rest)).map fun (ms, rest) => (.object ms, rest)

/-! ## Values -/

/-- A value whose arrays and objects are read by `array` and `object`. -/
def valueWith (array object : ValueReader) (s : Bytes) : Except Stop (Json × Bytes) :=
  match s with
  | [] => .error (.endInValue, [])
  | b :: rest =>
      let read (w : String) (v : Json) := (word w.toList rest).map fun rest => (v, rest)
      if b = byte '"' then (string rest).map fun (t, rest) => (.string t, rest)
      else if b = byte '[' then array rest
      else if b = byte '\x7b' then object rest
      else if b = byte 't' then read "rue" (.bool true)
      else if b = byte 'f' then read "alse" (.bool false)
      else if b = byte 'n' then read "ull" .null
      else if b = byte 'N' then read "aN" (.number .nan)
      else if b = byte '-' then (unsignedNumber true rest).map fun (n, rest) => (.number n, rest)
      else if isDigit b ∨ b = byte 'I' then
        (unsignedNumber false s).map fun (n, rest) => (.number n, rest)
      else .error (.expectedValue, s)

/-- No value at all, where arrays and objects are nested too deep. -/
def tooDeep : ValueReader
  | [] => .error (.endInValue, [])
  | b :: rest => .error (.tooDeep, b :: rest)

/-- A value with arrays and objects down to a depth. -/
def valueTo : (depth : Nat) → ValueReader
  | 0 => valueWith (array tooDeep) (object tooDeep)
  | depth + 1 => valueWith (array (valueTo depth)) (object (valueTo depth))
termination_by structural depth => depth

/-- How deep arrays and objects may be nested. -/
def maxDepth : Nat := 200

/-- The value of a whole document, or where its reader stops. -/
def document (s : Bytes) : Except Stop Json := do
  let (v, rest) ← valueTo maxDepth (skipBlanks s)
  match skipBlanks rest with
  | [] => return v
  | more => .error (.trailingCharacters, more)

end Reader

/-- The value of a whole document. -/
def read (s : Bytes) : Except ReadError Json :=
  match Reader.document s with
  | .ok v => .ok v
  | .error (fault, rest) => .error ⟨fault, Position.ofRest s rest⟩

end RouteGraft.Json
