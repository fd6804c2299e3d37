import Runbook.Text.Basic

set_option autoImplicit false

/-! # Double-precision numbers

A binary floating-point number of 53 significant bits, kept as the integers that make it up, so
that reading a decimal and comparing two numbers are exact arithmetic. A finite number is
`mantissa * 2 ^ exponent`; reading makes the mantissa as long as the format allows, which makes
the pair unique.
-/

namespace Runbook

/-- A double-precision number. -/
inductive Double where
  | nan
  | infinite (negative : Bool)
  | finite (negative : Bool) (mantissa : Nat) (exponent : Int)
  deriving DecidableEq, Repr

namespace Double

/-- The least exponent of the format, that of the subnormal numbers. -/
def leastExponent : Int := -1074

/-- The greatest exponent of the format. -/
def greatestExponent : Int := 971

/-- `2 ^ k`, and one for a negative `k`. -/
def twoTo (k : Int) : Nat := Nat.pow 2 k.toNat

/-- `10 ^ k`, and one for a negative `k`. -/
def tenTo (k : Int) : Nat := Nat.pow 10 k.toNat

/-- `num / den` rounded to a natural number, a half going to the even neighbour. -/
def roundDiv (num den : Nat) : Nat :=
  let q := num / den
  let twice := 2 * (num % den)
  if twice < den then q
  else if den < twice then q + 1
  else if q % 2 == 0 then q else q + 1

/-- The binary order of magnitude of a positive fraction: the `k` with
`2 ^ k ≤ num / den < 2 ^ (k + 1)`. -/
def magnitude (num den : Nat) : Int :=
  let k : Int := (Nat.log2 num : Int) - Nat.log2 den
  let atLeast :=
    if 0 ≤ k then den * twoTo k ≤ num else den ≤ num * twoTo (-k)
  if atLeast then k else k - 1

/-- The number nearest to a positive fraction, a half going to the even mantissa. -/
def nearest (negative : Bool) (num den : Nat) : Double :=
  let e := max leastExponent (magnitude num den - 52)
  let m := roundDiv (num * twoTo (-e)) (den * twoTo e)
  let (m, e) := if m == twoTo 53 then (twoTo 52, e + 1) else (m, e)
  if greatestExponent < e then infinite negative else finite negative m e

/-- The number nearest to `digits * 10 ^ power`. Powers far outside the format are decided by
the number of digits alone. -/
def ofDecimal (negative : Bool) (digits : Nat) (power : Int) : Double :=
  let places : Int := (Nat.toDigits 10 digits).length + power
  if digits == 0 || places < -330 then finite negative 0 leastExponent
  else if 310 < places then infinite negative
  else nearest negative (digits * tenTo power) (tenTo (-power))

/-- The number of the other sign. -/
def negated : Double → Double
  | nan => nan
  | infinite negative => infinite !negative
  | finite negative m e => finite (!negative) m e

/-- The number nearest to `mantissa * 2 ^ exponent`. -/
def ofBinary (negative : Bool) (mantissa : Nat) (exponent : Int) : Double :=
  if mantissa == 0 then finite negative 0 leastExponent
  else nearest negative (mantissa * twoTo exponent) (twoTo (-exponent))

/-- The sum of two numbers that are not negative. -/
def plus : Double → Double → Double
  | finite _ m e, finite _ n f =>
      let least := min e f
      ofBinary false (m * twoTo (e - least) + n * twoTo (f - least)) least
  | nan, _ => nan
  | _, nan => nan
  | _, _ => infinite false

/-- The product of two numbers that are not negative, of which infinity is not multiplied by
zero. -/
def times : Double → Double → Double
  | finite _ m e, finite _ n f => ofBinary false (m * n) (e + f)
  | nan, _ => nan
  | _, nan => nan
  | _, _ => infinite false

/-- Whether a number equals an integer. -/
def equalsInt : Double → Int → Bool
  | finite negative m e, n =>
      let whole := if 0 ≤ e then some (m * twoTo e)
        else if m % twoTo (-e) == 0 then some (m / twoTo (-e)) else none
      match whole with
      | some k => n == if negative then -(k : Int) else k
      | none => false
  | _, _ => false

/-- Whether two numbers are the same key: equal numbers are, the two zeros among them, and so
is `nan` with itself. -/
def same : Double → Double → Bool
  | nan, nan => true
  | infinite a, infinite b => a == b
  | finite a m e, finite b n f => (m == 0 && n == 0) || (a == b && m == n && e == f)
  | _, _ => false

end Double

end Runbook
