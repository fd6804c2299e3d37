import Runbook.Double.Basic
import Runbook.Shell.Arithmetic

set_option autoImplicit false

/-! # Printing

The two commands that print their arguments: one with blanks between them, the other in a format.
A format is used again as long as arguments are left; an argument that is missing counts as
empty. Escapes behind backslashes stand for single bytes. Numbers are converted by exact
arithmetic and rounded to the nearest decimal, a half going to the even one.
-/

namespace Runbook.Shell

/-! ## Escapes -/

/-- The digits of a text in base eight, no more than `limit`, and the rest. -/
def takeOctal (limit : Nat) (t : Text) : Text × Text :=
  let digits := (t.take limit).takeWhile (isDigitIn 8)
  (digits, t.drop digits.length)

/-- The byte of a number, of which only the lowest eight bits count. -/
def byteOf (n : Nat) : Char := Char.ofNat (n % 256)

/-- The control characters that letters stand for behind a backslash. -/
def controlCode? (c : Char) : Option Char :=
  match c with
  | 'a' => some '\x07'
  | 'b' => some '\x08'
  | 'e' => some '\x1b'
  | 'f' => some '\x0c'
  | 'n' => some '\n'
  | 'r' => some '\r'
  | 't' => some '\t'
  | 'v' => some '\x0b'
  | '\\' => some '\\'
  | _ => none

/-- The byte of the escape behind a backslash in a format, and the rest. A backslash that begins
no escape stands for itself. -/
def readEscape (t : Text) : Char × Text :=
  match t with
  | [] => ('\\', [])
  | c :: rest =>
      match controlCode? c with
      | some b => (b, rest)
      | none =>
          let (digits, after) := takeOctal 3 t
          if digits.isEmpty then ('\\', t) else (byteOf (inBase 8 digits), after)

/-- A text with its escapes replaced, up to one that stops the printing, and whether there was
one. Here a zero before an octal number is not one of its three digits. -/
def unescape : Nat → Text → Text × Bool
  | 0, _ => ([], false)
  | _, [] => ([], false)
  | fuel + 1, '\\' :: rest =>
      match rest with
      | 'c' :: _ => ([], true)
      | '0' :: digits =>
          let (digits, after) := takeOctal 3 digits
          let (more, stopped) := unescape fuel after
          (byteOf (inBase 8 digits) :: more, stopped)
      | _ =>
          let (b, after) := readEscape rest
          let (more, stopped) := unescape fuel after
          (b :: more, stopped)
  | fuel + 1, c :: rest =>
      let (more, stopped) := unescape fuel rest
      (c :: more, stopped)

/-- Prints its arguments with blanks between them and, unless told not to, a line end. -/
def echo (arguments : List Text) : Action Nat := do
  let quiet := arguments.head? == some ['-', 'n']
  let t := Text.join [' '] (if quiet then arguments.drop 1 else arguments)
  let (shown, stopped) := unescape (t.length + 1) t
  write (if quiet || stopped then shown else shown ++ ['\n'])
  return 0

/-! ## Conversions -/

/-- A conversion of a format. -/
structure Conversion where
  flags : Text
  width : Nat
  precision : Option Nat
  kind : Char

namespace Conversion

/-- Whether the conversion has a flag. -/
def has (c : Conversion) (flag : Char) : Bool := c.flags.contains flag

/-- A text filled up with blanks to the width. -/
def fill (c : Conversion) (t : Text) : Text :=
  let gap := List.replicate (c.width - t.length) ' '
  if c.has '-' then t ++ gap else gap ++ t

/-- A text cut off at the precision and filled up. -/
def text (c : Conversion) (t : Text) : Text :=
  c.fill (match c.precision with
    | some n => t.take n
    | none => t)

/-- The sign of a number. -/
def sign (c : Conversion) (negative : Bool) : Text :=
  if negative then ['-'] else if c.has '+' then ['+'] else if c.has ' ' then [' '] else []

/-- A numeral behind its sign, filled up with zeros between the two if the conversion says so. -/
def padded (c : Conversion) (zeros : Bool) (sign digits : Text) : Text :=
  let gap := c.width - (sign.length + digits.length)
  if zeros && c.has '0' && !c.has '-' then sign ++ List.replicate gap '0' ++ digits
  else c.fill (sign ++ digits)

/-- An integer converted. -/
def integer (c : Conversion) (n : Int) : Text :=
  let base := match c.kind with
    | 'x' => 16
    | 'X' => 16
    | 'o' => 8
    | _ => 10
  let plain := if n == 0 && c.precision == some 0 then [] else Nat.toDigits base n.natAbs
  let plain := if c.kind == 'X' then plain.map Char.toUpper else plain
  let digits := List.replicate (c.precision.getD 1 - plain.length) '0' ++ plain
  let digits := if c.kind == 'o' && c.has '#' && digits.head? != some '0' then '0' :: digits
    else digits
  let mark := if base == 16 && c.has '#' && n != 0 then ['0', c.kind] else []
  let signed := c.kind == 'd' || c.kind == 'i'
  c.padded c.precision.isNone (if signed then c.sign (n < 0) else mark) digits

/-- A number in its digits behind the point, of which there are `places`. -/
def positional (c : Conversion) (num den places : Nat) : Text :=
  let ds := Text.ofNat (Double.roundDiv (num * Double.tenTo places) den)
  let ds := List.replicate (places + 1 - ds.length) '0' ++ ds
  let cut := ds.length - places
  ds.take cut ++ (if places != 0 || c.has '#' then ['.'] else []) ++ ds.drop cut

/-- The decimal order of magnitude of a positive fraction: the greatest `k` with
`10 ^ k ≤ num / den`. -/
def orderOf (num den : Nat) : Int :=
  if den ≤ num then ((Text.ofNat (num / den)).length : Int) - 1
  else
    let k : Int := -((Text.ofNat (den / num)).length : Int)
    if den ≤ num * Double.tenTo (-k - 1) then k + 1 else k

/-- The digits of a positive fraction rounded to `places` behind the first, and the order of
magnitude of the rounded number. -/
def rounded (num den places : Nat) : Text × Int :=
  if num == 0 then (List.replicate (places + 1) '0', 0)
  else
    let k := orderOf num den
    let shift := (places : Int) - k
    let ds := Text.ofNat
      (Double.roundDiv (num * Double.tenTo shift) (den * Double.tenTo (-shift)))
    if places + 1 < ds.length then (ds.take (places + 1), k + 1) else (ds, k)

/-- An exponent, with a sign and at least so many digits. -/
def exponent (letter : Char) (least : Nat) (k : Int) : Text :=
  let ds := Text.ofNat k.natAbs
  letter :: (if k < 0 then '-' else '+') :: List.replicate (least - ds.length) '0' ++ ds

/-- A number with one digit before the point, and an exponent. -/
def scientific (c : Conversion) (num den places : Nat) : Text :=
  let (ds, k) := rounded num den places
  ds.take 1 ++ (if places != 0 || c.has '#' then ['.'] else []) ++ ds.drop 1 ++
    exponent 'e' 2 k

/-- A numeral without the zeros that end its fraction, and without a point that is left last. -/
def trimmed (t : Text) : Text :=
  let (body, power) := (t.takeWhile (· != 'e'), t.dropWhile (· != 'e'))
  if body.contains '.' then
    let kept := (body.reverse.dropWhile (· == '0'))
    (if kept.head? == some '.' then kept.drop 1 else kept).reverse ++ power
  else t

/-- A number in the shorter of the two forms. -/
def general (c : Conversion) (num den : Nat) : Text :=
  let precision := max (c.precision.getD 6) 1
  let (_, k) := rounded num den (precision - 1)
  let t := if k < -4 || (precision : Int) ≤ k then c.scientific num den (precision - 1)
    else c.positional num den ((precision : Int) - 1 - k).toNat
  if c.has '#' then t else trimmed t

/-- A number in base sixteen with a power of two. -/
def hexadecimal (c : Conversion) (mantissa : Nat) (e : Int) : Text :=
  let top := Nat.log2 mantissa
  let scaled := mantissa * Double.twoTo (52 - (top : Int))
  let places := c.precision.getD 13
  let cut := Double.roundDiv scaled (Nat.pow 16 (13 - places))
  let ds := Nat.toDigits 16 cut
  let ds := if mantissa == 0 then ['0'] else ds ++ List.replicate (places - 13) '0'
  let fraction := if c.precision.isSome then ds.drop 1
    else ((ds.drop 1).reverse.dropWhile (· == '0')).reverse
  let k : Int := if mantissa == 0 then 0 else e + top
  ds.take 1 ++ (if fraction.isEmpty then [] else '.' :: fraction) ++ exponent 'p' 1 k

/-- A number converted. -/
def real (c : Conversion) (x : Double) : Text :=
  let upper := c.kind.isUpper
  let raise := fun (t : Text) => if upper then t.map Char.toUpper else t
  match x with
  | .nan => c.padded false (c.sign false) (raise "nan".toList)
  | .infinite negative => c.padded false (c.sign negative) (raise "inf".toList)
  | .finite negative m e =>
      let num := m * Double.twoTo e
      let den := Double.twoTo (-e)
      let places := c.precision.getD 6
      let (mark, body) := match c.kind.toLower with
        | 'f' => ([], c.positional num den places)
        | 'e' => ([], c.scientific num den places)
        | 'g' => ([], c.general num den)
        | _ => (['0', 'x'], c.hexadecimal m e)
      c.padded true (c.sign negative ++ raise mark) (raise body)

end Conversion

/-! ## Numbers -/

/-- What is wrong with a number. -/
inductive NumberFault where
  | absent
  | unfinished
  | outOfRange
  deriving DecidableEq, Repr

/-- The fault in words. -/
def NumberFault.message : NumberFault → String
  | .absent => "expected numeric value"
  | .unfinished => "not completely converted"
  | .outOfRange => "Numerical result out of range"

/-- The fault of a number, of which `rest` is left over. -/
def numberFault? (t rest : Text) (outOfRange : Bool) : Option NumberFault :=
  if rest.isEmpty then if outOfRange then some .outOfRange else none
  else if rest.length == t.length then some .absent
  else some .unfinished

/-- The number of the byte behind a quotation mark at the beginning of a text. -/
def codeOf? (t : Text) : Option Nat :=
  match t with
  | '"' :: rest => some ((rest.head?.map Char.toNat).getD 0)
  | '\'' :: rest => some ((rest.head?.map Char.toNat).getD 0)
  | _ => none

/-- The integer that a text denotes, and what is wrong with it. -/
def readInteger (signed : Bool) (t : Text) : Int × Option NumberFault :=
  match codeOf? t with
  | some n => (n, none)
  | none =>
      let (negative, body) := takeSign (t.dropWhile isSpace)
      let (digits, base, rest) := takeNumeral body
      let n := inBase base digits
      let least := if negative then greatest + 1 else greatest
      let modulus := 2 * (greatest + 1)
      let tooLarge := if signed then least < n else modulus ≤ n
      let value : Int :=
        if signed then if negative then -(min n least : Int) else min n least
        else if modulus ≤ n then modulus - 1
        else if negative then ((modulus - n) % modulus : Nat)
        else n
      if digits.isEmpty then (0, numberFault? t t false)
      else (value, numberFault? t rest tooLarge)

/-- Passes over the letters of a word, in upper or lower case. -/
def takeLetters? (word : String) (t : Text) : Option Text :=
  if (t.take word.length).map Char.toLower == word.toList then some (t.drop word.length) else none

/-- The exponent behind a letter, and the rest. -/
def takePower (letter : Char) (t : Text) : Int × Text :=
  match t with
  | c :: rest =>
      let (negative, body) := takeSign rest
      let digits := body.takeWhile Char.isDigit
      if c.toLower == letter && !digits.isEmpty then
        let n : Int := inBase 10 digits
        (if negative then -n else n, body.drop digits.length)
      else (0, t)
  | [] => (0, [])

/-- Passes over digits with a point among them: the digits, how many follow the point, and the
rest. -/
def takeDecimal (base : Nat) (t : Text) : Text × Nat × Text :=
  let whole := t.takeWhile (isDigitIn base)
  match t.drop whole.length with
  | '.' :: rest =>
      let fraction := rest.takeWhile (isDigitIn base)
      if whole.isEmpty && fraction.isEmpty then ([], 0, t)
      else (whole ++ fraction, fraction.length, rest.drop fraction.length)
  | rest => (whole, 0, rest)

/-- The number that a text denotes, and what is wrong with it. -/
def readReal (t : Text) : Double × Option NumberFault :=
  match codeOf? t with
  | some n => (Double.ofDecimal false n 0, none)
  | none =>
      let (negative, body) := takeSign (t.dropWhile isSpace)
      let finish := fun (rounded : Bool) (x : Double) (rest : Text) =>
        let outOfRange := match x with
          | .infinite _ => true
          | .finite _ m e => rounded && e == Double.leastExponent && m < Double.twoTo 52
          | .nan => false
        (x, numberFault? t rest outOfRange)
      let decimal := fun (_ : Unit) =>
        let (digits, places, rest) := takeDecimal 10 body
        let (power, rest) := takePower 'e' rest
        if digits.isEmpty then (Double.ofDecimal negative 0 0, numberFault? t t false)
        else finish (inBase 10 digits != 0)
          (Double.ofDecimal negative (inBase 10 digits) (power - places)) rest
      match takeLetters? "infinity" body <|> takeLetters? "inf" body with
      | some rest => (.infinite negative, numberFault? t rest false)
      | none =>
          match takeLetters? "nan" body, takeLetters? "0x" body with
          | some rest, _ => (.nan, numberFault? t rest false)
          | none, some hex =>
              let (digits, places, rest) := takeDecimal 16 hex
              let (power, rest) := takePower 'p' rest
              if digits.isEmpty then decimal ()
              else
                let e := max (-5000) (min 5000 (power - 4 * (places : Int)))
                finish false (Double.ofBinary negative (inBase 16 digits) e) rest
          | none, none => decimal ()

/-! ## Formats -/

/-- What has become of a format: what it prints, the arguments left, whether one was taken, the
complaints about arguments, whether printing stops, and the fault that stopped it. -/
structure Formatted where
  shown : Text := []
  arguments : List Text
  taken : Bool := false
  complaints : List Text := []
  stopped : Bool := false
  fault : Option Text := none

namespace Formatted

/-- The next argument, which is taken. -/
def next (f : Formatted) : Text × Formatted :=
  (f.arguments.head?.getD [],
    { f with arguments := f.arguments.drop 1, taken := f.taken || !f.arguments.isEmpty })

/-- The format with more printed. -/
def add (f : Formatted) (t : Text) : Formatted := { f with shown := f.shown ++ t }

/-- The format with a complaint about an argument if there is a fault. -/
def complain (f : Formatted) (t : Text) (fault : Option NumberFault) : Formatted :=
  match fault with
  | some fault => { f with
      complaints := f.complaints ++ [t ++ ": ".toList ++ fault.message.toList] }
  | none => f

/-- The format that ends with a fault. -/
def failed (f : Formatted) (message : Text) : Formatted :=
  { f with stopped := true, fault := some message }

/-- The next argument as an integer; a missing one is zero. -/
def nextInteger (f : Formatted) (signed : Bool) : Int × Formatted :=
  let (t, g) := f.next
  if f.arguments.isEmpty || t.isEmpty then (0, g)
  else
    let (n, fault) := readInteger signed t
    (n, g.complain t fault)

/-- The next argument as a number; a missing one is zero. -/
def nextReal (f : Formatted) : Double × Formatted :=
  let (t, g) := f.next
  if f.arguments.isEmpty || t.isEmpty then (Double.ofDecimal false 0 0, g)
  else
    let (x, fault) := readReal t
    (x, g.complain t fault)

/-- A number of a conversion: digits, or an asterisk for the next argument. -/
def measure (f : Formatted) (t : Text) : Int × Text × Formatted :=
  match t with
  | '*' :: rest =>
      let (n, g) := f.nextInteger true
      (n, rest, g)
  | _ =>
      let digits := t.takeWhile Char.isDigit
      (inBase 10 digits, t.drop digits.length, f)

/-- A value converted; none if there is no such conversion. -/
def convert (f : Formatted) (c : Conversion) : Option Formatted :=
  match c.kind with
  | 's' =>
      let (t, g) := f.next
      some (g.add (c.text t))
  | 'c' =>
      let (t, g) := f.next
      some (g.add (c.fill [t.head?.getD '\x00']))
  | 'b' =>
      let (t, g) := f.next
      let (shown, stopped) := unescape (t.length + 1) t
      some { g.add (c.text shown) with stopped }
  | kind =>
      if kind == 'd' || kind == 'i' then
        let (n, g) := f.nextInteger true
        some (g.add (c.integer n))
      else if ['u', 'x', 'X', 'o'].contains kind then
        let (n, g) := f.nextInteger false
        some (g.add (c.integer n))
      else if "aAeEfFgG".toList.contains kind then
        let (x, g) := f.nextReal
        some (g.add (c.real x))
      else none

end Formatted

/-- Formats once. -/
def formatOnce : Nat → Text → Formatted → Formatted
  | 0, _, f => f
  | _, [], f => f
  | fuel + 1, '\\' :: rest, f =>
      let (b, after) := readEscape rest
      formatOnce fuel after (f.add [b])
  | fuel + 1, '%' :: '%' :: rest, f => formatOnce fuel rest (f.add ['%'])
  | fuel + 1, '%' :: rest, f =>
      let flags := rest.takeWhile "#-+ 0".toList.contains
      let (width, after, f) := f.measure (rest.drop flags.length)
      let (precision, after, f) := match after with
        | '.' :: more =>
            let (n, after, f) := f.measure more
            (if n < 0 then none else some n.toNat, after, f)
        | _ => (none, after, f)
      match after with
      | [] => f.failed "missing format character".toList
      | kind :: after =>
          let flags := if width < 0 then '-' :: flags else flags
          match f.convert ⟨flags, width.natAbs, precision, kind⟩ with
          | some g => if g.stopped then g else formatOnce fuel after g
          | none =>
              let directive := '%' :: rest.take (rest.length - after.length)
              f.failed (directive ++ ": invalid directive".toList)
  | fuel + 1, c :: rest, f => formatOnce fuel rest (f.add [c])

/-- Formats again as long as arguments are left. -/
def formatAll (format : Text) : Nat → Formatted → Formatted
  | 0, f => f
  | fuel + 1, f =>
      let g := formatOnce (format.length + 1) format { f with taken := false }
      if g.stopped || !g.taken || g.arguments.isEmpty then g else formatAll format fuel g

/-- Prints its arguments in a format. -/
def printf (arguments : List Text) : Action Nat := do
  match (if arguments.head? == some ['-', '-'] then arguments.drop 1 else arguments) with
  | [] => fail "usage: printf format [arg ...]".toList
  | format :: rest =>
      if let '-' :: c :: _ := format then
        if arguments.head? == some format then
          fail ("Illegal option -".toList ++ [c])
      let f := formatAll format (rest.length + 1) { arguments := rest }
      for t in f.complaints do report t
      if let some t := f.fault then report t
      write f.shown
      if f.fault.isSome then throw (.error 2)
      return if f.complaints.isEmpty then 0 else 1

end Runbook.Shell
