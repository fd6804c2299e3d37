import Runbook.Double.Basic

set_option autoImplicit false

/-! # The shortest decimal of a number

A number is written with the fewest decimal digits that read back to it; of several numerals of
that length the one nearest to it is taken, and of two equally near ones the one with the even
last digit. The digits are placed positionally when the point falls within sixteen places of the
first digit, and with an exponent of at least two digits otherwise.
-/

namespace Runbook.Double

/-- Digits `d₁ d₂ …` and the place of the point: the value is `0.d₁d₂… * 10 ^ point`. -/
structure Numeral where
  digits : Nat
  point : Int

/-- The positive number `value / scale`, with the ends of the interval of reals that are rounded
to it; the ends belong to the interval when `closed`. -/
structure Interval where
  value : Nat
  low : Nat
  high : Nat
  scale : Nat
  closed : Bool

/-- The interval of a positive mantissa and its exponent. Below a power of two the numbers lie
twice as dense. -/
def intervalOf (m : Nat) (e : Int) : Interval :=
  let unit := twoTo e
  let below := if m == twoTo 52 && leastExponent < e then unit else 2 * unit
  ⟨4 * m * unit, 4 * m * unit - below, 4 * m * unit + 2 * unit, 4 * twoTo (-e), m % 2 == 0⟩

/-- The decimal order of magnitude: the least `p` with `value / scale < 10 ^ p`. -/
def Interval.order (i : Interval) : Int :=
  let isAbove (p : Int) : Bool :=
    if 0 ≤ p then i.value < i.scale * tenTo p else i.value * tenTo (-p) < i.scale
  let candidates := (List.range 640).map fun (k : Nat) => (k : Int) - 325
  (candidates.find? isAbove).getD 315

/-- Whether `d * 10 ^ k` reads back to the number. -/
def Interval.holds (i : Interval) (d : Nat) (k : Int) : Bool :=
  let x := d * tenTo k * i.scale
  let up := tenTo (-k)
  if i.closed then i.low * up ≤ x && x ≤ i.high * up else i.low * up < x && x < i.high * up

/-- Of the two neighbours of the number on the grid `10 ^ k`, one that reads back to it: the
nearer if both do, the even one if they are equally near. -/
def Interval.onGrid? (i : Interval) (k : Int) : Option Nat :=
  let num := i.value * tenTo (-k)
  let den := i.scale * tenTo k
  let d := num / den
  let rounded := roundDiv num den
  if i.holds rounded k then some rounded
  else if i.holds d k then some d
  else if i.holds (d + 1) k then some (d + 1)
  else none

/-- The shortest numeral: of the grids of one to seventeen digits the first that holds one. -/
def Interval.shortest (i : Interval) : Numeral :=
  let p := i.order
  let attempt (n : Nat) : Option Numeral :=
    (i.onGrid? (p - n)).map fun d => ⟨d, p - n + (Nat.toDigits 10 d).length⟩
  ((List.range 17).findSome? fun n => attempt (n + 1)).getD ⟨0, 1⟩

/-- The digits of a numeral, without the zeros that end it. -/
def Numeral.significant (n : Numeral) : Text :=
  let ds := Text.ofNat n.digits
  match (ds.reverse.dropWhile (· == '0')).reverse with
  | [] => ['0']
  | kept => kept

/-- An exponent: its sign and at least two digits. -/
def exponentText (e : Int) : Text :=
  let ds := Text.ofNat e.natAbs
  'e' :: (if e < 0 then '-' else '+') :: (if ds.length < 2 then '0' :: ds else ds)

/-- A numeral written out. -/
def Numeral.text (n : Numeral) : Text :=
  let ds := n.significant
  if -4 < n.point && n.point ≤ 16 then
    if n.point ≤ 0 then '0' :: '.' :: List.replicate n.point.natAbs '0' ++ ds
    else
      let whole := n.point.toNat
      if ds.length ≤ whole then ds ++ List.replicate (whole - ds.length) '0' ++ ['.', '0']
      else ds.take whole ++ '.' :: ds.drop whole
  else
    match ds with
    | d :: more =>
        (if more.isEmpty then [d] else d :: '.' :: more) ++ exponentText (n.point - 1)
    | [] => []

/-- A number written out. -/
def text : Double → Text
  | nan => ['n', 'a', 'n']
  | infinite negative => (if negative then ['-'] else []) ++ ['i', 'n', 'f']
  | finite negative m e =>
      (if negative then ['-'] else []) ++
        if m == 0 then ['0', '.', '0'] else (intervalOf m e).shortest.text

end Runbook.Double
