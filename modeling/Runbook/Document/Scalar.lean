import Runbook.Document.Cursor
import Runbook.Settings.Value

set_option autoImplicit false

/-! # What a plain text stands for

A plain text of a settings document may stand for something other than itself: for nothing, a
truth value, or a number. The spellings are those of YAML 1.1: truth values in lower case, in
capitals or capitalised; integers in base ten, or in base two, eight or sixteen behind `0b`, `0`
and `0x`, or in base sixty with colons; numbers with a point, and infinities. Underscores may
stand between digits.
-/

namespace Runbook.Document

/-! ## Truth values and nothing -/

/-- A word in lower case, capitalised, and in capitals. -/
def spellings (word : String) : List Text :=
  let t := word.toList
  [t, (t.take 1).map Char.toUpper ++ t.drop 1, t.map Char.toUpper]

/-- The truth value a plain text stands for. -/
def boolean? (t : Text) : Option Bool :=
  if (["yes", "true", "on"].flatMap spellings).contains t then some true
  else if (["no", "false", "off"].flatMap spellings).contains t then some false
  else none

/-- Whether a plain text stands for nothing. -/
def isNull (t : Text) : Bool := t.isEmpty || t == ['~'] || (spellings "null").contains t

/-! ## Digits -/

/-- The value of a digit. -/
def digitValue (c : Char) : Nat :=
  if c.isDigit then c.toNat - '0'.toNat
  else if 'a' ≤ c ∧ c ≤ 'f' then c.toNat - 'a'.toNat + 10
  else if 'A' ≤ c ∧ c ≤ 'F' then c.toNat - 'A'.toNat + 10
  else 0

/-- Whether the character is a digit of the base, sixteen at most. -/
def isDigitOf (base : Nat) (c : Char) : Bool :=
  (c.isDigit || ('a' ≤ c && c ≤ 'f') || ('A' ≤ c && c ≤ 'F')) && digitValue c < base

/-- Whether all characters are digits of the base or underscores. -/
def allDigits (base : Nat) (t : Text) : Bool := t.all fun c => isDigitOf base c || c == '_'

/-- The number that digits write, underscores left out. -/
def digitsValue (base : Nat) (t : Text) : Nat :=
  (t.filter (· != '_')).foldl (fun n c => n * base + digitValue c) 0

/-- The sign that may stand before a number, and the rest. -/
def signed (t : Text) : Bool × Text :=
  match t with
  | '-' :: rest => (true, rest)
  | '+' :: rest => (false, rest)
  | _ => (false, t)

/-! ## Integers -/

/-- The texts between colons. -/
def sections : Nat → Text → List Text
  | 0, t => [t]
  | fuel + 1, t =>
      match Text.cutAt ':' t with
      | (before, some after) => before :: sections fuel after
      | (before, none) => [before]

/-- Whether the text is a section of a number in base sixty behind the first. -/
def isSixtieth : Text → Bool
  | [a] => a.isDigit
  | [a, b] => '0' ≤ a && a ≤ '5' && b.isDigit
  | _ => false

/-- The natural number that a text without a sign stands for. -/
def natural? (t : Text) : Option Nat :=
  match t with
  | '0' :: 'b' :: ds => if !ds.isEmpty && allDigits 2 ds then some (digitsValue 2 ds) else none
  | '0' :: 'x' :: ds => if !ds.isEmpty && allDigits 16 ds then some (digitsValue 16 ds) else none
  | '0' :: ds => if allDigits 8 ds then some (digitsValue 8 ds) else none
  | c :: _ =>
      if '1' ≤ c && c ≤ '9' then
        match sections t.length t with
        | [ds] => if allDigits 10 ds then some (digitsValue 10 ds) else none
        | first :: more =>
            if allDigits 10 first && more.all isSixtieth then
              some (more.foldl (fun n s => n * 60 + digitsValue 10 s) (digitsValue 10 first))
            else none
        | [] => none
      else none
  | [] => none

/-- The integer that a plain text stands for. -/
def integer? (t : Text) : Option Int :=
  let (negative, rest) := signed t
  (natural? rest).map fun n => if negative then -(n : Int) else n

/-- The number that cannot be read, if the text has the form of an integer and is one. -/
def badNumber? (t : Text) : Option BadNumber :=
  let empty := fun (base : Nat) (ds : Text) =>
    if !ds.isEmpty && ds.all (· == '_') then some (BadNumber.noDigits base) else none
  match (signed t).2 with
  | '0' :: 'b' :: ds => empty 2 ds
  | '0' :: 'x' :: ds => empty 16 ds
  | '0' :: _ => none
  | rest =>
      let digits := (((Text.cutAt ':' rest).1).filter (· != '_')).length
      if digits ≤ Text.digitLimit || (natural? rest).isNone then none else some (.tooLong digits)

/-! ## Numbers with a point -/

/-- The power of ten behind `e`, whose sign is not left out. Nothing at all is the power zero. -/
def power? (t : Text) : Option Int :=
  match t with
  | [] => some 0
  | e :: s :: ds =>
      if (e == 'e' || e == 'E') && (s == '+' || s == '-') && !ds.isEmpty && ds.all Char.isDigit then
        some (if s == '-' then -(digitsValue 10 ds : Int) else digitsValue 10 ds)
      else none
  | _ => none

/-- The number that a text without a sign stands for: digits, a point, digits and a power. The
digits before the point may be left out if some follow it and the number has no sign. -/
def pointed? (negative bare : Bool) (t : Text) : Option Double :=
  let isDigit := fun c : Char => c.isDigit || c == '_'
  let whole := t.takeWhile isDigit
  match t.drop whole.length with
  | '.' :: rest =>
      let fraction := rest.takeWhile isDigit
      let begins := fun ds : Text => ds.head?.any Char.isDigit
      if begins whole || (whole.isEmpty && bare && begins fraction) then
        (power? (rest.drop fraction.length)).map fun p =>
          let places := (fraction.filter (· != '_')).length
          Double.ofDecimal negative (digitsValue 10 (whole ++ fraction)) (p - places)
      else none
  | _ => none

/-- The number that a text without a sign stands for in base sixty: sections, the last of which
has a point. The sections are added up from the last to the first. -/
def sixtieths? (t : Text) : Option Double :=
  let (before, after) := Text.cutAt '.' t
  match sections before.length before, after with
  | first :: second :: more, some fraction =>
      let last := (second :: more).getLastD []
      if first.head?.any Char.isDigit && allDigits 10 first && (second :: more).all isSixtieth &&
          allDigits 10 fraction then
        let digits := fraction.filter (· != '_')
        let least := Double.ofDecimal false (digitsValue 10 (last ++ digits)) (-digits.length)
        let others := (first :: second :: more).dropLast.reverse.zipIdx
        some (others.foldl (fun sum (s, i) =>
          let weight := Double.ofDecimal false (Nat.pow 60 (i + 1)) 0
          sum.plus ((Double.ofDecimal false (digitsValue 10 s) 0).times weight)) least)
      else none
  | _, _ => none

/-- The number, infinity or nan that a plain text stands for. -/
def real? (t : Text) : Option Double :=
  let (negative, rest) := signed t
  if (spellings "inf").contains (rest.drop 1) && rest.head? == some '.' then
    some (.infinite negative)
  else if [".nan".toList, ".NaN".toList, ".NAN".toList].contains t then some .nan
  else
    match pointed? negative (rest.length == t.length) rest with
    | some x => some x
    | none => (sixtieths? rest).map fun x => if negative then x.negated else x

/-! ## Plain texts -/

/-- The value a plain text stands for. -/
def plainValue (t : Text) : Value :=
  if isNull t then .null
  else
    match boolean? t, integer? t, real? t with
    | some b, _, _ => .bool b
    | none, some n, _ => .int n
    | none, none, some x => .real x
    | none, none, none => .ofText t

end Runbook.Document
