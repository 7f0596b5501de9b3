import RouteGraft.Text.Utf8
import RouteGraft.Text.Visible

/-!
# Quoted texts

Some messages show a text in quotes, so that it can be told where it ends and
what is in it.  The quotes are single ones, unless the text has a single quote
in it and no double one.  The quote, the backslash and every character that is
not visible are escaped: line break, carriage return and tab by a letter
and the others by their number, in as many hexadecimal digits as it takes out
of two, four and eight.
-/

namespace RouteGraft.Text.Quoted

/-- The last `digits` hexadecimal digits of a number. -/
def hex : (digits : Nat) → Nat → List Char
  | 0, _ => []
  | digits + 1, n => hex digits (n / 16) ++ [Utf8.hexDigit (n % 16)]

/-- A character by its number. -/
def byNumber (n : Nat) : List Char :=
  if n < 0x100 then '\\' :: 'x' :: hex 2 n
  else if n < 0x10000 then '\\' :: 'u' :: hex 4 n
  else '\\' :: 'U' :: hex 8 n

/-- A character between quotes. -/
def escape (quote c : Char) : List Char :=
  if c = quote ∨ c = '\\' then ['\\', c]
  else if c = '\n' then ['\\', 'n']
  else if c = '\r' then ['\\', 'r']
  else if c = '\t' then ['\\', 't']
  else if isVisible c then [c]
  else byNumber c.toNat

/-- The quote for a text. -/
def quoteFor (cs : List Char) : Char :=
  if cs.contains '\'' && !cs.contains '"' then '"' else '\''

/-- A text in quotes. -/
def encode (s : String) : String :=
  let q := quoteFor s.toList
  String.ofList (q :: s.toList.flatMap (escape q) ++ [q])

example : escape '\'' '\x1b' = ['\\', 'x', '1', 'b'] := by decide

end RouteGraft.Text.Quoted
