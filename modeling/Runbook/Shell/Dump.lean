import Runbook.Shell.Filters

set_option autoImplicit false

/-! # Dumps

A dump shows bytes as numbers or characters, so many of them on a line, behind the place at which
the line begins. The same bytes can be shown in several forms, each on a line of its own. Lines that
repeat the one before are left out.
-/

namespace Runbook.Shell

/-! ## Forms -/

/-- How bytes are shown. -/
inductive DumpKind where
  /-- As characters, with escapes. -/
  | characters
  /-- As characters, with names for those that cannot be seen. -/
  | names
  | signed
  | unsigned (base : Nat)
  deriving DecidableEq, Repr

/-- A form in which bytes are shown: how many bytes make an item, and whether the characters stand
behind the line. -/
structure DumpForm where
  kind : DumpKind
  size : Nat
  trailer : Bool := false
  deriving DecidableEq, Repr

namespace DumpForm

/-- How many characters an item takes at most. -/
def width (f : DumpForm) : Nat :=
  let bits := 8 * f.size
  match f.kind with
  | .characters => 3
  | .names => 3
  | .signed => (Nat.toDigits 10 (Nat.pow 2 (bits - 1))).length + 1
  | .unsigned base => (Nat.toDigits base (Nat.pow 2 bits - 1)).length

/-- The names of the first bytes. -/
def controlNames : List String := ["nul", "soh", "stx", "etx", "eot", "enq", "ack", "bel", "bs",
  "ht", "nl", "vt", "ff", "cr", "so", "si", "dle", "dc1", "dc2", "dc3", "dc4", "nak", "syn", "etb",
  "can", "em", "sub", "esc", "fs", "gs", "rs", "us", "sp"]

/-- A byte as a character. -/
def character (c : Char) : Text :=
  match c with
  | '\x00' => ['\\', '0']
  | '\x07' => ['\\', 'a']
  | '\x08' => ['\\', 'b']
  | '\x0c' => ['\\', 'f']
  | '\n' => ['\\', 'n']
  | '\r' => ['\\', 'r']
  | '\t' => ['\\', 't']
  | '\x0b' => ['\\', 'v']
  | c =>
      if 0x20 ≤ c.toNat && c.toNat < 0x7f then [c]
      else
        let digits := Nat.toDigits 8 c.toNat
        List.replicate (3 - digits.length) '0' ++ digits

/-- A byte by its name. -/
def name (c : Char) : Text :=
  let n := c.toNat % 128
  if n == 127 then "del".toList
  else
    match controlNames[n]? with
    | some t => t.toList
    | none => [Char.ofNat n]

/-- An item of bytes, the lowest one first. -/
def item (f : DumpForm) (bytes : Text) : Text :=
  let n := bytes.reverse.foldl (fun n c => n * 256 + c.toNat) 0
  match f.kind with
  | .characters => character (bytes.head?.getD '\x00')
  | .names => name (bytes.head?.getD '\x00')
  | .signed =>
      let range := Nat.pow 2 (8 * f.size)
      if n < range / 2 then Text.ofNat n else '-' :: Text.ofNat (range - n)
  | .unsigned base =>
      let digits := Nat.toDigits base n
      if base == 10 then digits else List.replicate (f.width - digits.length) '0' ++ digits

/-- How many blanks a line has besides its items if all forms are to have the same width. -/
def pad (f : DumpForm) (perLine widest : Nat) : Nat := widest - f.width * (perLine / f.size)

/-- The items of a line of bytes, filled up with blanks in front. -/
def items (f : DumpForm) (perLine widest : Nat) (bytes : Text) : Text :=
  let fields := perLine / f.size
  let pad := f.pad perLine widest
  let count := (bytes.length + f.size - 1) / f.size
  let filled := bytes ++ List.replicate (count * f.size - bytes.length) '\x00'
  let shown := (List.range count).flatMap fun i =>
    let before := pad * (fields - i) / fields
    let after := pad * (fields - i - 1) / fields
    let t := f.item ((filled.drop (i * f.size)).take f.size)
    List.replicate (f.width + before - after - t.length) ' ' ++ t
  if f.trailer then
    let blank := fields - count
    shown ++ List.replicate (blank * f.width + pad * blank / fields) ' ' ++ "  >".toList ++
      bytes.map (fun c => if 0x20 ≤ c.toNat && c.toNat < 0x7f then c else '.') ++ ['<']
  else shown

end DumpForm

/-! ## Reading forms -/

/-- The sizes that letters stand for. -/
def sizeLetters : List (Char × Nat) := [('C', 1), ('S', 2), ('I', 4), ('L', 8)]

/-- The forms that a text asks for; none if it cannot be read. -/
def dumpForms? : Nat → Text → Option (List DumpForm)
  | 0, _ => none
  | _, [] => some []
  | fuel + 1, c :: rest =>
      let finish := fun (kind : DumpKind) (size : Nat) (rest : Text) =>
        let (trailer, rest) := match rest with
          | 'z' :: more => (true, more)
          | rest => (false, rest)
        (dumpForms? fuel rest).map (({ kind, size, trailer } : DumpForm) :: ·)
      let kind := match c with
        | 'd' => some DumpKind.signed
        | 'o' => some (DumpKind.unsigned 8)
        | 'u' => some (DumpKind.unsigned 10)
        | 'x' => some (DumpKind.unsigned 16)
        | _ => none
      match c, kind with
      | 'a', _ => finish .names 1 rest
      | 'c', _ => finish .characters 1 rest
      | _, some kind =>
          let digits := rest.takeWhile Char.isDigit
          let letter := rest.head?.bind fun l => sizeLetters.find? (·.1 == l)
          match letter with
          | some (_, size) => finish kind size (rest.drop 1)
          | none =>
              let size := if digits.isEmpty then 4 else inBase 10 digits
              if [1, 2, 4, 8].contains size then finish kind size (rest.drop digits.length)
              else none
      | _, none => none

/-- The forms that options with letters of their own ask for. -/
def dumpLetters : List (Char × DumpForm) := [
  ('a', ⟨.names, 1, false⟩), ('b', ⟨.unsigned 8, 1, false⟩), ('c', ⟨.characters, 1, false⟩),
  ('d', ⟨.unsigned 10, 2, false⟩), ('o', ⟨.unsigned 8, 2, false⟩), ('B', ⟨.unsigned 8, 2, false⟩),
  ('s', ⟨.signed, 2, false⟩), ('x', ⟨.unsigned 16, 2, false⟩), ('h', ⟨.unsigned 16, 2, false⟩),
  ('i', ⟨.signed, 4, false⟩), ('I', ⟨.signed, 8, false⟩), ('l', ⟨.signed, 8, false⟩),
  ('L', ⟨.signed, 8, false⟩), ('D', ⟨.unsigned 10, 4, false⟩), ('O', ⟨.unsigned 8, 4, false⟩),
  ('X', ⟨.unsigned 16, 4, false⟩), ('H', ⟨.unsigned 16, 4, false⟩)]

/-! ## Lines -/

/-- How a dump looks. -/
structure Dump where
  forms : List DumpForm
  perLine : Nat
  /-- The base of the places, or that there are none. -/
  radix : Option Nat
  repeats : Bool

namespace Dump

/-- A place as it stands in front of a line. -/
def place (d : Dump) (n : Nat) : Text :=
  match d.radix with
  | none => []
  | some base =>
      let digits := Nat.toDigits base n
      List.replicate ((if base == 16 then 6 else 7) - digits.length) '0' ++ digits

/-- The lines of one piece of bytes. -/
def line (d : Dump) (start : Nat) (bytes : Text) : Text :=
  let widest := d.forms.foldl (fun n f => max n ((f.width + 1) * (d.perLine / f.size))) 0
  let head := d.place start
  let blank := List.replicate head.length ' '
  let rows := d.forms.map fun f => f.items d.perLine widest bytes ++ ['\n']
  match rows with
  | [] => []
  | r :: more => head ++ r ++ more.flatMap (blank ++ ·)

/-- The dump of pieces. `before` is the piece before them, and whether it has been left out. -/
def lines (d : Dump) (start : Nat) (before : Option (Text × Bool)) : List Text → Text
  | [] => []
  | piece :: rest =>
      let next := start + piece.length
      match before with
      | some (old, out) =>
          if !d.repeats && old == piece then
            (if out then [] else ['*', '\n']) ++ d.lines next (some (piece, true)) rest
          else d.line start piece ++ d.lines next (some (piece, false)) rest
      | none => d.line start piece ++ d.lines next (some (piece, false)) rest

/-- The dump of bytes that begin at a place. -/
def whole (d : Dump) (start : Nat) (bytes : Text) : Text :=
  let pieces := piecesOfSize d.perLine (bytes.length + 1) bytes
  d.lines start none pieces ++
    (if d.radix.isSome then d.place (start + bytes.length) ++ ['\n'] else [])

end Dump

/-! ## The utility -/

/-- Takes so many bytes of a stream, or all if there is no limit, behind those that have been taken,
the last piece first. -/
def takeBytes (stream : Nat) (limit : Option Nat) : Nat → List Text → Action Text
  | 0, pieces => return pieces.reverse.flatten
  | fuel + 1, pieces => do
      let taken := pieces.foldl (fun n t => n + t.length) 0
      let left := limit.map (· - taken)
      if left == some 0 then return pieces.reverse.flatten
      match ← takePiece stream left with
      | .ok (c :: t) => takeBytes stream limit fuel ((c :: t) :: pieces)
      | _ => return pieces.reverse.flatten

/-- The number of bytes that a text is: it may be octal or hexadecimal. -/
def byteCount? (t : Text) : Option Nat :=
  match t with
  | '0' :: 'x' :: digits =>
      if !digits.isEmpty && digits.all (isDigitIn 16) then some (inBase 16 digits) else none
  | '0' :: c :: digits =>
      if (c :: digits).all (isDigitIn 8) then some (inBase 8 (c :: digits))
      else (amount? t).map (·.2)
  | t => ((amount? t).filter (·.1 == ' ')).map (·.2)

/-- Shows the bytes of files. -/
def dump (words : List Text) : Action Nat := do
  let letters := dumpLetters.map (·.1)
  let kinds : OptionKinds := ⟨String.ofList ('v' :: letters), "AjNtw", [("address-radix", 'A'),
    ("skip-bytes", 'j'), ("read-bytes", 'N'), ("format", 't'), ("output-duplicates", 'v'),
    ("width", 'w')]⟩
  -- A width that is not written is that of two lines.
  let spelt := words.map fun w => if w == "-w".toList || w == "--width".toList then
    "-w32".toList else w
  withOptions "od" kinds 1 (fun g => do
    let refuse := fun (message : Text) => do
      complainAs "od" message
      return 1
    let asked := g.options.map fun (c, v) =>
      if c == 't' then (v, dumpForms? (v.length + 1) v)
      else (v, some (((dumpLetters.find? (·.1 == c)).map (·.2)).toList))
    if let some (t, _) := asked.find? (·.2.isNone) then
      let size := (t.drop 1).takeWhile Char.isDigit
      let bad := t.find? fun c => !c.isDigit && !"acdouxz".toList.contains c
      match bad with
      | some c =>
          return ← refuse ("invalid character '".toList ++ c :: "' in type string ".toList ++
            quoted t)
      | none =>
          complainAs "od" ("invalid type string ".toList ++ quoted t ++ [';'])
          complain ("this system doesn't provide a ".toList ++ size ++ "-byte integral type".toList)
          return 1
    let forms := asked.flatMap fun (_, forms) => forms.getD []
    let forms := if forms.isEmpty then [⟨.unsigned 8, 2, false⟩] else forms
    let largest := forms.foldl (fun n f => max n f.size) 1
    let radix := (g.value? 'A').getD ['o']
    if !(["d", "o", "x", "n"].any (·.toList == radix.take 1)) then
      return ← refuse ("invalid output address radix '".toList ++ radix.take 1 ++
        "'; it must be one character from [doxn]".toList)
    let count := fun (c : Char) => (g.value? c).map fun t => (t, byteCount? t)
    let wrong := ['j', 'N', 'w'].findSome? fun c =>
      match count c with
      | some (t, none) => some ("invalid -".toList ++ c :: " argument ".toList ++ quoted t)
      | _ => none
    if let some message := wrong then return ← refuse message
    let skipped := ((count 'j').bind (·.2)).getD 0
    let limit := (count 'N').bind (·.2)
    let wanted := ((count 'w').bind (·.2)).getD 0
    let isGood := wanted != 0 && wanted % largest == 0
    if (g.value? 'w').isSome && !isGood then
      complainAs "od" ("warning: invalid width ".toList ++ Text.ofNat wanted ++ "; using ".toList ++
        Text.ofNat largest ++ " instead".toList)
    let perLine := if isGood then wanted else if (g.value? 'w').isSome then largest else 16
    let mut good := true
    let mut bytes : Text := []
    let mut anyOpen := false
    for t in g.inputs do
      match ← openOperand t with
      | .error reason =>
          complainOf "od" "" (named t) reason
          good := false
      | .ok stream =>
          anyOpen := true
          match ← peekStream stream (some 1) with
          | .error reason =>
              complainOf "od" "" (named t) reason
              good := false
          | .ok _ =>
              let left := if ← isEndless stream then some ((limit.getD 0) + skipped - bytes.length)
                else limit.map (· + skipped - bytes.length)
              bytes := bytes ++ (← takeBytes stream left pieceBound [])
          closeOperand stream
    if !anyOpen then return 1
    if bytes.length < skipped then return ← refuse "cannot skip past end of combined input".toList
    let d : Dump := {
      forms, perLine
      radix := match radix.head? with
        | some 'd' => some 10
        | some 'x' => some 16
        | some 'n' => none
        | _ => some 8
      repeats := g.has 'v' }
    write (d.whole skipped (bytes.drop skipped))
    return if good then 0 else 1) spelt

end Runbook.Shell
