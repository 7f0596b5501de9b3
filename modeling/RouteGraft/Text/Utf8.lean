/-!
# Bytes and characters

Files hold bytes and names are characters.  `encode` writes characters as
UTF-8 and `decode` reads them back.  The reader of a file never decodes the
whole of it, only the names it needs, so a stray byte in a comment does no
harm.

A byte starts a character of one, two, three or four bytes, or none at all.
The first byte of a character also bounds the second one (`lead`): the
bounds rule out surrogates, numbers above `0x10FFFF`, and long forms of
characters that have a shorter one.  Every further byte is in `0x80 .. 0xBF`.

`decode` stops at the first character it cannot read.  A `DecodeError` says
where that is, how many bytes the broken character has so far, and which of
three things is wrong with it: the first byte starts no character, a later
byte does not continue it, or the text ends inside it.
-/

namespace RouteGraft

/-- The content of a file. -/
abbrev Bytes := List UInt8

namespace Utf8

/-! ## Writing -/

/-- The UTF-8 bytes of a string. -/
def encode (s : String) : Bytes := s.toList.flatMap String.utf8EncodeChar

/-! ## The shape of a character -/

/-- What the first byte of a character says about the rest of it. -/
inductive Lead where
  /-- The byte is a character. -/
  | ascii
  /-- The character has `more` further bytes and its first byte adds `value`;
  the second byte is in `low .. high`. -/
  | long (more : Nat) (value : Nat) (low high : UInt8)
  /-- No character starts with the byte. -/
  | none
  deriving DecidableEq, Repr

/-- The table of first bytes. -/
def lead (b : UInt8) : Lead :=
  if b < 0x80 then .ascii
  else if b < 0xC2 then .none
  else if b < 0xE0 then .long 1 (b.toNat - 0xC0) 0x80 0xBF
  else if b = 0xE0 then .long 2 0 0xA0 0xBF
  else if b = 0xED then .long 2 0xD 0x80 0x9F
  else if b < 0xF0 then .long 2 (b.toNat - 0xE0) 0x80 0xBF
  else if b = 0xF0 then .long 3 0 0x90 0xBF
  else if b < 0xF4 then .long 3 (b.toNat - 0xF0) 0x80 0xBF
  else if b = 0xF4 then .long 3 4 0x80 0x8F
  else .none

/-! ## Errors -/

/-- What is wrong with a character that cannot be read. -/
inductive Fault where
  /-- Its first byte starts no character. -/
  | start
  /-- A byte does not continue it. -/
  | continuation
  /-- The text ends inside it. -/
  | truncated
  deriving DecidableEq, Repr

/-- The wording of a fault. -/
def Fault.message : Fault → String
  | .start => "invalid start byte"
  | .continuation => "invalid continuation byte"
  | .truncated => "unexpected end of data"

/-- The first character of a text that cannot be read. -/
structure DecodeError where
  /-- What is wrong with it. -/
  fault : Fault
  /-- The offset of its first byte. -/
  offset : Nat
  /-- Its first byte. -/
  first : UInt8
  /-- How many bytes it has before the fault, the first one included. -/
  count : Nat
  deriving DecidableEq, Repr

/-- A number below 16 as a lowercase hexadecimal digit. -/
def hexDigit (n : Nat) : Char :=
  if n < 10 then Char.ofNat ('0'.toNat + n) else Char.ofNat ('a'.toNat + (n - 10))

/-- A byte as two hexadecimal digits. -/
def hexByte (b : UInt8) : String :=
  String.ofList [hexDigit (b.toNat / 16), hexDigit (b.toNat % 16)]

/-- The wording of a decoding error.  One byte is shown, of several only where
they are. -/
def DecodeError.message (e : DecodeError) : String :=
  let what :=
    if e.count = 1 then
      "byte 0x" ++ hexByte e.first ++ " in position " ++ toString e.offset
    else
      "bytes in position " ++ toString e.offset ++ "-" ++ toString (e.offset + e.count - 1)
  "'utf-8' codec can't decode " ++ what ++ ": " ++ e.fault.message

/-! ## Reading -/

/-- The further bytes of a character: `more` of them, the first of which is in
`low .. high`.  Gives the value of the character, or the fault and the number
of bytes read before it. -/
def tail (value : Nat) (low high : UInt8) : (more : Nat) → Bytes → Except (Fault × Nat) Nat
  | 0, _ => .ok value
  | _ + 1, [] => .error (.truncated, 0)
  | more + 1, b :: rest =>
      if low ≤ b ∧ b ≤ high then
        match tail (value * 64 + (b.toNat - 0x80)) 0x80 0xBF more rest with
        | .ok v => .ok v
        | .error (fault, n) => .error (fault, n + 1)
      else .error (.continuation, 0)
termination_by structural more => more

/-- The character at the start of a text and the number of its bytes. -/
def next (b : UInt8) (rest : Bytes) : Except (Fault × Nat) (Char × Nat) :=
  match lead b with
  | .ascii => .ok (Char.ofNat b.toNat, 1)
  | .none => .error (.start, 1)
  | .long more value low high =>
      match tail value low high more rest with
      | .ok v => .ok (Char.ofNat v, more + 1)
      | .error (fault, n) => .error (fault, n + 1)

/-- The characters of a text that starts at `offset`.  `skip` counts the bytes
of the last character that are still to come. -/
def decodeFrom (offset : Nat) (skip : Nat) : Bytes → Except DecodeError (List Char)
  | [] => .ok []
  | b :: rest =>
      match skip with
      | skip + 1 => decodeFrom (offset + 1) skip rest
      | 0 =>
          match next b rest with
          | .error (fault, count) => .error ⟨fault, offset, b, count⟩
          | .ok (c, size) =>
              match decodeFrom (offset + 1) (size - 1) rest with
              | .ok cs => .ok (c :: cs)
              | .error e => .error e
termination_by structural bytes => bytes

/-- The text that bytes stand for. -/
def decode (bytes : Bytes) : Except DecodeError String :=
  match decodeFrom 0 0 bytes with
  | .ok cs => .ok (String.ofList cs)
  | .error e => .error e

/-! ## Examples -/

example : decodeFrom 0 0 [0x41, 0xC3, 0xA9] = .ok ['A', 'é'] := rfl
example : decodeFrom 0 0 [0x41, 0xFF] = .error ⟨.start, 1, 0xFF, 1⟩ := rfl
example : decodeFrom 0 0 [0xE2, 0x82] = .error ⟨.truncated, 0, 0xE2, 2⟩ := rfl
example : decodeFrom 0 0 [0xED, 0xA0, 0x80] = .error ⟨.continuation, 0, 0xED, 1⟩ := rfl

end Utf8

end RouteGraft
