import RouteGraft.Json.Fault
import RouteGraft.Json.Number

/-!
# Words, numbers and strings of JSON

Besides the three words of JSON a document may hold `NaN`, `Infinity` and
`-Infinity`.

The escapes of a string are read together with its other bytes, and the bytes
are decoded when the closing quote is found.  So whatever else is wrong with a
string is reported before a byte that is no UTF-8.  The place that is given for
such a byte counts the bytes that the string stands for, as if its escapes were
not there.

An integer is held back by the length of its text and not by its value: with
its sign it has at most `maxDigits` characters.
-/

namespace RouteGraft.Json.Reader

/-! ## Blanks and words -/

/-- The byte of an ASCII character. -/
def byte (c : Char) : UInt8 := UInt8.ofNat c.toNat

/-- Space, tab, line break and carriage return. -/
def isBlank (b : UInt8) : Bool := b = 0x20 || b = 0x09 || b = 0x0A || b = 0x0D

/-- The rest of a document without the blanks in front. -/
def skipBlanks (s : Bytes) : Bytes := s.dropWhile isBlank

/-- The rest behind a word. -/
def word : (expected : List Char) → Bytes → Except Stop Bytes
  | [], rest => .ok rest
  | _ :: _, [] => .error (.endInValue, [])
  | c :: cs, b :: rest => if b = byte c then word cs rest else .error (.expectedWord, b :: rest)
termination_by structural expected => expected

/-! ## Numbers -/

/-- An ASCII digit. -/
def isDigit (b : UInt8) : Bool := 0x30 ≤ b && b ≤ 0x39

/-- The number that digits stand for. -/
def digitsValue (digits : Bytes) : Nat :=
  digits.foldl (fun n b => n * 10 + (b.toNat - 0x30)) 0

/-- One or more digits. -/
def someDigits (s : Bytes) : Except Stop (Bytes × Bytes) :=
  match s with
  | [] => .error (.endInValue, [])
  | b :: _ =>
      if isDigit b then .ok (s.takeWhile isDigit, s.dropWhile isDigit)
      else .error (.invalidNumber, s)

/-- The digits behind a decimal point, if there is one. -/
def fraction (s : Bytes) : Except Stop (Option Bytes × Bytes) :=
  match s with
  | b :: rest =>
      if b = byte '.' then (someDigits rest).map fun (digits, rest) => (some digits, rest)
      else .ok (none, s)
  | [] => .ok (none, [])

/-- The power of ten behind an `e`, if there is one. -/
def exponent (s : Bytes) : Except Stop (Option Int × Bytes) :=
  match s with
  | b :: rest =>
      if b = byte 'e' ∨ b = byte 'E' then
        let negative := rest.head? = some (byte '-')
        let signed := negative ∨ rest.head? = some (byte '+')
        (someDigits (if signed then rest.drop 1 else rest)).map fun (digits, rest) =>
          (some (if negative then -(digitsValue digits : Int) else digitsValue digits), rest)
      else .ok (none, s)
  | [] => .ok (none, [])

/-- The digits in front of a decimal point.  A zero stands alone. -/
def wholeDigits (s : Bytes) : Except Stop (Bytes × Bytes) :=
  match s with
  | [] => .error (.endInValue, [])
  | b :: rest =>
      if b = byte '0' then
        match rest with
        | d :: _ => if isDigit d then .error (.invalidNumber, rest) else .ok ([b], rest)
        | [] => .ok ([b], [])
      else someDigits s

/-- The number of characters that a sign and the digits behind it may have. -/
def maxDigits : Nat := 4300

/-- Stops behind the digits in front of a decimal point if there are too many.
`s` starts with them. -/
def checkLength (negative : Bool) (whole s : Bytes) : Except Stop Unit :=
  let sign := if negative then 1 else 0
  if maxDigits < sign + whole.length then .error (.numberTooLong, s.drop (maxDigits + 1 - sign))
  else .ok ()

/-- A number behind its sign. -/
def unsignedNumber (negative : Bool) (s : Bytes) : Except Stop (Number × Bytes) :=
  if s.head? = some (byte 'I') then
    (word "nfinity".toList (s.drop 1)).map fun rest => (.infinite negative, rest)
  else do
    let number := s
    let (whole, s) ← wholeDigits s
    checkLength negative whole number
    let (fractional, s) ← fraction s
    let (power, s) ← exponent s
    match fractional, power with
    | none, none =>
        let n : Int := digitsValue whole
        return (.integer (if negative then -n else n), s)
    | _, _ =>
        let behind := fractional.getD []
        return (.decimal negative (digitsValue (whole ++ behind))
          (power.getD 0 - behind.length), s)

/-! ## Strings -/

/-- The value of a hexadecimal digit. -/
def hexValue? (b : UInt8) : Option Nat :=
  if isDigit b then some (b.toNat - 0x30)
  else if byte 'a' ≤ b ∧ b ≤ byte 'f' then some (b.toNat - 0x61 + 10)
  else if byte 'A' ≤ b ∧ b ≤ byte 'F' then some (b.toNat - 0x41 + 10)
  else none

/-- The number that some hexadecimal digits add to `n`. -/
def hexDigits (n : Nat) : (count : Nat) → Bytes → Except Stop Nat
  | 0, _ => .ok n
  | _ + 1, [] => .error (.endInString, [])
  | count + 1, b :: rest =>
      match hexValue? b with
      | some d => hexDigits (n * 16 + d) count rest
      | none => .error (.invalidEscape, b :: rest)
termination_by structural count => count

/-- The number of four hexadecimal digits.  Where fewer bytes are left, none of
them is looked at. -/
def fourHexDigits (s : Bytes) : Except Stop Nat :=
  if s.length < 4 then .error (.endInString, []) else hexDigits 0 4 s

/-- The first halves of surrogate pairs. -/
def isFirstHalf (n : Nat) : Bool := 0xD800 ≤ n && n < 0xDC00

/-- The second halves of surrogate pairs. -/
def isSecondHalf (n : Nat) : Bool := 0xDC00 ≤ n && n < 0xE000

/-- The character of a surrogate pair. -/
def pairChar (first second : Nat) : Char :=
  Char.ofNat (0x10000 + (first - 0xD800) * 0x400 + (second - 0xDC00))

/-- The second half of a surrogate pair, as an escape of its own. -/
def secondHalf (s : Bytes) : Except Stop Nat :=
  match s with
  | [] => .error (.endInString, [])
  | b :: rest =>
      if b = byte '\\' then
        match rest with
        | [] => .error (.endInString, [])
        | u :: digits =>
            if u = byte 'u' then do
              let n ← fourHexDigits digits
              if isSecondHalf n then return n
              else .error (.loneSurrogate, digits.drop 3)
            else .error (.unfinishedPair, rest)
      else .error (.unfinishedPair, s)

/-- The character of an escape by number, and how many bytes it has behind the
`u`. -/
def numberEscape (s : Bytes) : Except Stop (Char × Nat) := do
  let n ← fourHexDigits s
  if isSecondHalf n then .error (.loneSurrogate, s.drop 3)
  else if isFirstHalf n then return (pairChar n (← secondHalf (s.drop 4)), 10)
  else return (Char.ofNat n, 4)

/-- The characters of the escapes of one letter. -/
def letterEscape? (b : UInt8) : Option Char :=
  if b = byte '"' then some '"'
  else if b = byte '\\' then some '\\'
  else if b = byte '/' then some '/'
  else if b = byte 'b' then some '\x08'
  else if b = byte 'f' then some '\x0c'
  else if b = byte 'n' then some '\n'
  else if b = byte 'r' then some '\r'
  else if b = byte 't' then some '\t'
  else none

/-- The character of an escape, and how many bytes it has behind the
backslash. -/
def escape (s : Bytes) : Except Stop (Char × Nat) :=
  match s with
  | [] => .error (.endInString, [])
  | b :: rest =>
      if b = byte 'u' then (numberEscape rest).map fun (c, size) => (c, size + 1)
      else
        match letterEscape? b with
        | some c => .ok (c, 1)
        | none => .error (.invalidEscape, s)

/-- The bytes that a string stands for, behind its opening quote.  `skip` counts
the bytes of the last escape that are still to come. -/
def stringBytes (skip : Nat) : Bytes → Except Stop (Bytes × Bytes)
  | [] => .error (.endInString, [])
  | b :: rest =>
      match skip with
      | skip + 1 => stringBytes skip rest
      | 0 =>
          if b = byte '"' then .ok ([], rest)
          else if b = byte '\\' then
            match escape rest with
            | .error stop => .error stop
            | .ok (c, size) =>
                (stringBytes size rest).map fun (more, rest) =>
                  (String.utf8EncodeChar c ++ more, rest)
          else if b < 0x20 then .error (.controlCharacter, b :: rest)
          else (stringBytes 0 rest).map fun (more, rest) => (b :: more, rest)
termination_by structural s => s

/-- A string behind its opening quote. -/
def string (s : Bytes) : Except Stop (String × Bytes) := do
  let (bytes, rest) ← stringBytes 0 s
  match Utf8.decode bytes with
  | .ok text => return (text, rest)
  | .error e => .error (.invalidUtf8, s.drop e.offset)

end RouteGraft.Json.Reader
