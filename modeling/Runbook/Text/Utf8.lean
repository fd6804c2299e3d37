import Runbook.Text.Basic

set_option autoImplicit false

/-! # UTF-8

Reading bytes as UTF-8. A byte sequence that is not UTF-8 is refused with the place and the
extent of the first bytes that cannot be read: a byte that begins no character, a character whose
next byte is not the continuation it needs, or a character cut off by the end of the bytes.
-/

namespace Runbook.Utf8

/-- Why bytes are not a character. -/
inductive Reason where
  /-- No character begins with this byte. -/
  | badStart
  /-- A byte of the character is not a continuation that may stand there. -/
  | badContinuation
  /-- The bytes end inside the character. -/
  | truncated
  deriving DecidableEq, Repr

/-- The reason in words. -/
def Reason.message : Reason → String
  | .badStart => "invalid start byte"
  | .badContinuation => "invalid continuation byte"
  | .truncated => "unexpected end of data"

/-- The first bytes that cannot be read: where they begin, which they are, and why. -/
structure Fault where
  position : Nat
  bytes : List UInt8
  reason : Reason
  deriving DecidableEq, Repr

/-- The least and the greatest second byte after a first byte of two or more. -/
def secondBounds (b : UInt8) : Nat × Nat :=
  if b == 0xe0 then (0xa0, 0xbf)
  else if b == 0xed then (0x80, 0x9f)
  else if b == 0xf0 then (0x90, 0xbf)
  else if b == 0xf4 then (0x80, 0x8f)
  else (0x80, 0xbf)

/-- The number of bytes of the character that `b` begins; zero if it begins none. -/
def extent (b : UInt8) : Nat :=
  if b < 0x80 then 1
  else if b < 0xc2 then 0
  else if b < 0xe0 then 2
  else if b < 0xf0 then 3
  else if b < 0xf5 then 4
  else 0

/-- Whether `c` may be the byte at place `i` of a character that begins with `b`. -/
def continues (b : UInt8) (i : Nat) (c : UInt8) : Bool :=
  let (lo, hi) := if i == 1 then secondBounds b else (0x80, 0xbf)
  lo ≤ c.toNat && c.toNat ≤ hi

/-- The continuation bytes of a character that begins with `b`, of which `seen` bytes have been
read and `owed` are to come; or the number of bytes that cannot be read, and why. -/
def continuation (b : UInt8) : Nat → Nat → List UInt8 → Except (Nat × Reason) (List UInt8)
  | _, 0, _ => .ok []
  | seen, _ + 1, [] => .error (seen, .truncated)
  | seen, owed + 1, c :: rest =>
      if continues b seen c then (c :: ·) <$> continuation b (seen + 1) owed rest
      else .error (seen, .badContinuation)

/-- The payload of a first byte. -/
def leadBits (b : UInt8) : Nat :=
  match extent b with
  | 2 => b.toNat % 0x20
  | 3 => b.toNat % 0x10
  | 4 => b.toNat % 0x08
  | _ => b.toNat

/-- The character that a first byte and its continuation bytes stand for. -/
def assemble (b : UInt8) (more : List UInt8) : Char :=
  Char.ofNat (more.foldl (fun n c => n * 0x40 + c.toNat % 0x40) (leadBits b))

/-- The first character of bytes that begin with `b`, and how many bytes it takes. -/
def decodeChar (b : UInt8) (rest : List UInt8) : Except (Nat × Reason) (Char × Nat) :=
  if extent b == 0 then .error (1, .badStart)
  else
    match continuation b 1 (extent b - 1) rest with
    | .error e => .error e
    | .ok more => .ok (assemble b more, more.length)

/-- The text that bytes from place `position` on stand for. -/
def decodeFrom (position : Nat) : List UInt8 → Except Fault Text
  | [] => .ok []
  | b :: rest =>
      match decodeChar b rest with
      | .error (n, reason) => .error ⟨position, (b :: rest).take n, reason⟩
      | .ok (c, n) => (c :: ·) <$> decodeFrom (position + n + 1) (rest.drop n)
termination_by bytes => bytes.length
decreasing_by simp only [List.length_drop, List.length_cons]; omega

/-- The text that bytes stand for in UTF-8. -/
def decode (bytes : List UInt8) : Except Fault Text := decodeFrom 0 bytes

/-- The bytes of one character. -/
def encodeChar (c : Char) : List UInt8 :=
  let n := c.toNat
  if n < 0x80 then [n.toUInt8]
  else if n < 0x800 then [(0xc0 + n / 0x40).toUInt8, (0x80 + n % 0x40).toUInt8]
  else if n < 0x10000 then
    [(0xe0 + n / 0x1000).toUInt8, (0x80 + n / 0x40 % 0x40).toUInt8, (0x80 + n % 0x40).toUInt8]
  else
    [(0xf0 + n / 0x40000).toUInt8, (0x80 + n / 0x1000 % 0x40).toUInt8,
      (0x80 + n / 0x40 % 0x40).toUInt8, (0x80 + n % 0x40).toUInt8]

/-- The bytes of a text in UTF-8. -/
def encode (t : Text) : List UInt8 := t.flatMap encodeChar

/-- Two lower-case hexadecimal digits. -/
def hexByte (b : UInt8) : String :=
  String.ofList [Nat.digitChar (b.toNat / 16), Nat.digitChar (b.toNat % 16)]

/-- The fault in words; a single byte is named, several are given by their places. -/
def Fault.message (f : Fault) : String :=
  let what :=
    match f.bytes with
    | [b] => s!"byte 0x{hexByte b} in position {f.position}"
    | bytes => s!"bytes in position {f.position}-{f.position + bytes.length - 1}"
  "'utf-8' codec can't decode " ++ what ++ ": " ++ f.reason.message

/-- The fault as a reader reports it that takes the bytes in pieces: it holds back a character
that the end of the data cuts off, and then reads it alone, so the places count from there. A
surrogate half at the very end is held back as well. -/
def Fault.heldBack (f : Fault) (bytes : List UInt8) : Fault :=
  let surrogateHalf :=
    match bytes.drop f.position with
    | [a, b] => a == 0xed && 0xa0 ≤ b && b ≤ 0xbf
    | _ => false
  if f.reason == .truncated || surrogateHalf then { f with position := 0 } else f

end Runbook.Utf8
