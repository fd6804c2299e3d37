import Runbook.Shell.Scanning.Reader
import Runbook.Shell.Scanning.Table

set_option autoImplicit false

/-! # Values

A value is a number or a text. What comes from outside is both if it looks like a number. A variable
that has never been set is zero and the empty text at once.
-/

namespace Runbook.Shell.Scanning

/-- A value. -/
inductive Value where
  | unset
  | number (x : Float)
  | text (t : Text)
  /-- A text from outside, which may look like a number. -/
  | input (t : Text)
  deriving Inhabited

/-! ## Numbers -/

/-- The exact value of a number. -/
def doubleOf (x : Float) : Double :=
  let bits := x.toBits.toNat
  let negative := Double.twoTo 63 ≤ bits
  let power : Nat := bits / Double.twoTo 52 % 2048
  let fraction := bits % Double.twoTo 52
  if power == 2047 then if fraction == 0 then .infinite negative else .nan
  else if power == 0 then .finite negative fraction Double.leastExponent
  else .finite negative (fraction + Double.twoTo 52) ((power : Int) - 1075)

/-- The whole number that is left of a number without its fraction; none for those that are not
finite. -/
def wholeOf? (x : Float) : Option Int :=
  match doubleOf x with
  | .finite negative m e =>
      let n := m * Double.twoTo e / Double.twoTo (-e)
      some (if negative then -(n : Int) else n)
  | _ => none

/-- The greatest whole number that is written with its digits. -/
def greatestWhole : Int := 18446744073709551616

/-- Whether a number is whole and is written with its digits. -/
def exactly? (x : Float) : Option Int :=
  (wholeOf? x).filter fun n =>
    -9223372036854775808 ≤ n && n ≤ greatestWhole && floatOf (ofInt n) == x
where
  /-- The number nearest to a whole number. -/
  ofInt (n : Int) : Double := Double.ofDecimal (n < 0) n.natAbs 0

/-- The number of a whole number. -/
def ofWhole (n : Int) : Float := floatOf (Double.ofDecimal (n < 0) n.natAbs 0)

/-- What is left when a number is divided by another one as often as it goes. -/
def remainder (x y : Float) : Float :=
  match doubleOf x, doubleOf y with
  | .finite negative m e, .finite _ n f =>
      if n == 0 then 0.0 / 0.0
      else
        let least := min e f
        let r := m * Double.twoTo (e - least) % (n * Double.twoTo (f - least))
        floatOf (Double.ofBinary negative r least)
  | .finite _ _ _, .infinite _ => x
  | _, _ => 0.0 / 0.0

/-- The number that a text begins with. -/
def numberAtStart (t : Text) : Float :=
  let body := (takeSign (t.dropWhile isSpace)).2
  -- Words for numbers do not count unless they are whole.
  match body with
  | c :: _ => if c.isDigit || c == '.' || c == 'i' || c == 'n' || c == 'I' || c == 'N' then
      floatOf (readReal t).1 else 0
  | [] => 0

/-- The number that a text looks like, if it does. -/
def likeNumber? (t : Text) : Option Float :=
  let isGap := fun (c : Char) => c == ' ' || c == '\t' || c == '\n'
  let kept := ((t.dropWhile isGap).reverse.dropWhile isGap).reverse
  let begins := kept.head?.any fun c => c.isDigit || c == '.' || c == '+' || c == '-'
  let finishes := kept.getLast?.any fun c => c.isDigit || c == '.'
  if !begins || !finishes then none
  else
    match readReal kept with
    | (x, none) => some (floatOf x)
    | (x, some .outOfRange) => some (floatOf x)
    | _ => none

/-! ## Formats -/

/-- Why values cannot be formatted. -/
inductive FormatFault where
  | few
  | improper (place : Nat)

/-- A number converted as a whole one. -/
def wholeConverted (c : Conversion) (x : Float) : Text :=
  let signed := c.kind == 'd' || c.kind == 'i'
  let greatest : Int := 9223372036854775807
  let n : Int := match wholeOf? x, doubleOf x with
    | some n, _ => n
    | none, .infinite negative => if negative then -greatest else greatestWhole - 1
    | none, _ => -greatest - 1
  let n := if n < -greatest then -greatest else if greatestWhole ≤ n then greatestWhole - 1 else n
  if signed then c.integer n else c.integer (if n < 0 then n + greatestWhole else n)

/-- A number converted as it is. -/
def realConverted (c : Conversion) (x : Float) : Text :=
  if x.isNaN then c.padded false ['-'] (if c.kind.isUpper then "NAN" else "nan").toList
  else c.real (doubleOf x)

/-- A number in a format that has one conversion. -/
def inFormat (format : Text) (x : Float) : Text :=
  let before := format.takeWhile (· != '%')
  let body := format.drop (before.length + 1)
  let flags := body.takeWhile "#-+ 0".toList.contains
  let body := body.drop flags.length
  let width := body.takeWhile Char.isDigit
  let body := body.drop width.length
  let (precision, body) := match body with
    | '.' :: more =>
        let digits := more.takeWhile Char.isDigit
        (some (inBase 10 digits), more.drop digits.length)
    | body => (none, body)
  match body with
  | [] => format
  | kind :: after =>
      let c : Conversion := ⟨flags, inBase 10 width, precision, kind⟩
      let t := if "diouxX".toList.contains kind then wholeConverted c x else realConverted c x
      before ++ t ++ after

/-- A number as a text, in a format if it is not whole. -/
def numberText (format : Text) (x : Float) : Text :=
  match exactly? x with
  | some n => Text.ofInt (if n == greatestWhole then n - 1 else n)
  | none => inFormat format x

/-! ## Conversions between values -/

/-- The value as a number. -/
def Value.asNumber (v : Value) : Float :=
  match v with
  | .unset => 0
  | .number x => x
  | .text t => numberAtStart t
  | .input t => numberAtStart t

/-- The value as a text; numbers that are not whole are written in a format. -/
def Value.asText (format : Text) (v : Value) : Text :=
  match v with
  | .unset => []
  | .number x => numberText format x
  | .text t => t
  | .input t => t

/-- The number that a value is to comparisons, if it is one. -/
def Value.numeric? (v : Value) : Option Float :=
  match v with
  | .unset => some 0
  | .number x => some x
  | .text _ => none
  | .input t => likeNumber? t

/-- Whether a value counts as true. -/
def Value.isTrue (v : Value) : Bool :=
  match v with
  | .unset => false
  | .number x => x != 0
  | .text t => !t.isEmpty
  | .input t =>
      match likeNumber? t with
      | some x => x != 0
      | none => !t.isEmpty

/-- The key that a value is. -/
def Value.asKey (format : Text) (v : Value) : Key :=
  match v with
  | .number x =>
      match exactly? x with
      | some n => .number n
      | none => .text (numberText format x)
  | v => .text (v.asText format)

/-- Whether a comparison of two values holds. -/
def Value.compares (format : Text) (op : Operator) (a b : Value) : Bool :=
  match a.numeric?, b.numeric? with
  | some x, some y =>
      match op with
      | .less => x < y
      | .atMost => x ≤ y
      | .equal => x == y
      | .unequal => x != y
      | .greater => y < x
      | _ => y ≤ x
  | _, _ =>
      let s := a.asText format
      let t := b.asText format
      match op with
      | .less => Text.before s t
      | .atMost => !Text.before t s
      | .equal => s == t
      | .unequal => s != t
      | .greater => Text.before t s
      | _ => !Text.before s t

/-! ## Parts of texts -/

/-- How a text is cut into parts. -/
inductive Separator where
  /-- At blanks, those at both ends left out. -/
  | blanks
  | byte (c : Char)
  /-- Between all bytes. -/
  | nothing
  | regular (r : Regular)

/-- The parts of a text between blanks. -/
def blankParts : Nat → Text → List Text
  | 0, _ => []
  | fuel + 1, t =>
      let isGap := fun (c : Char) => c == ' ' || c == '\t' || c == '\n'
      match t.dropWhile isGap with
      | [] => []
      | rest =>
          let part := rest.takeWhile (!isGap ·)
          part :: blankParts fuel (rest.drop part.length)

/-- The parts of a text between matches that are not empty, from a place on. -/
def regularParts (r : Regular) (s : Regular.Subject) : Nat → Nat → List Text
  | 0, place => [s.between place s.bytes.size]
  | fuel + 1, place =>
      match Regular.find? r s place fun m => m.first != m.last with
      | some m => s.between place m.first :: regularParts r s fuel m.last
      | none => [s.between place s.bytes.size]

/-- The parts of a text. -/
def Separator.parts (s : Separator) (t : Text) : List Text :=
  if t.isEmpty then []
  else
    match s with
    | blanks => blankParts (t.length + 1) t
    | byte c => t.splitOn c
    | nothing => t.map fun c => [c]
    | regular r => regularParts r ⟨t.toArray, false⟩ (t.length + 1) 0

end Runbook.Shell.Scanning
