/-!
# Numbers of JSON

A number is kept the way it is written: an integer, or digits with a power of
ten.  Only one question is ever asked about the second form, namely which
integer it is, if any.  It is asked of the *double* nearest to the number and
not of the number itself, so `1.00000000000000000001` is the integer one.

A double is `m * 2 ^ q` with `m` of at most 53 bits and `q` at least `-1074`.
The nearest one is found on the grid of step `2 ^ q` where the number has 53
bits, and of two neighbours at the same distance the even one is taken
(`roundEven`).  Everything is done in natural numbers.
-/

namespace RouteGraft.Json

/-- A number as it is written. -/
inductive Number where
  /-- Digits only. -/
  | integer (value : Int)
  /-- The number `digits * 10 ^ exponent`, or its negative. -/
  | decimal (negative : Bool) (digits : Nat) (exponent : Int)
  /-- No number. -/
  | nan
  /-- Infinity, or its negative. -/
  | infinite (negative : Bool)
  deriving DecidableEq, Repr

/-! ## The nearest double -/

/-- A quotient rounded to the nearest integer, and to the even one of two. -/
def Number.roundEven (num den : Nat) : Nat :=
  let whole := num / den
  let twice := 2 * (num % den)
  if twice < den then whole
  else if den < twice then whole + 1
  else whole + whole % 2

/-- The exponent of the grid of doubles around a positive quotient. -/
def Number.gridExponent (num den : Nat) : Int :=
  let near : Int := num.log2 - den.log2
  let exact : Int :=
    if 0 ≤ near then (if den * Nat.pow 2 near.toNat ≤ num then near else near - 1)
    else if den ≤ num * Nat.pow 2 (-near).toNat then near
    else near - 1
  max (exact - 52) (-1074)

/-- The integer that the double nearest to a quotient is, if it is one. -/
def Number.nearestInteger? (num den : Nat) : Option Nat :=
  let q := gridExponent num den
  if 0 ≤ q then some (roundEven num (den * Nat.pow 2 q.toNat) * Nat.pow 2 q.toNat)
  else
    let step := Nat.pow 2 (-q).toNat
    let m := roundEven (num * step) den
    if m % step = 0 then some (m / step) else none

/-- The integer that the double nearest to `digits * 10 ^ exponent` is, if it is
one below `10 ^ 21`.  Numbers that are smaller than every double are zero. -/
def Number.wholeOf? (digits : Nat) (exponent : Int) : Option Nat :=
  let places : Int := exponent + (Nat.toDigits 10 digits).length
  if digits = 0 then some 0
  else if 21 < places then none
  else if places < -330 then some 0
  else if 0 ≤ exponent then nearestInteger? (digits * Nat.pow 10 exponent.toNat) 1
  else nearestInteger? digits (Nat.pow 10 (-exponent).toNat)

/-! ## Examples -/

example : Number.roundEven 5 2 = 2 ∧ Number.roundEven 7 2 = 4 := by decide
example : Number.nearestInteger? (2 ^ 54 - 1) (2 ^ 54) = some 1 := by decide +kernel
example : Number.nearestInteger? (2 ^ 53 - 1) (2 ^ 53) = none := by decide +kernel
example : Number.nearestInteger? (2 ^ 63 - 1) 1 = some (2 ^ 63) := by decide +kernel

end RouteGraft.Json
