import Runbook.Double.Basic
import Runbook.Shell.Utility

set_option autoImplicit false

/-! # Digests

A digest is a short text that stands for the bytes of a file. Most digests are made block by block:
what has been made so far is mixed with the words of the next block, and behind the last byte stands
how many there have been.
-/

namespace Runbook.Shell.Digest

/-! ## Words and blocks -/

/-- The number that bytes write, the highest one first. -/
def number (bytes : Text) : Nat := bytes.foldl (fun n c => n * 256 + c.toNat) 0

/-- The lowest bytes of a number, the highest one first. -/
def bytesOf : Nat → Nat → Text
  | 0, _ => []
  | count + 1, n => bytesOf count (n / 256) ++ [Char.ofNat (n % 256)]

/-- Bytes with what is put behind them: a mark, so many zeros that blocks are full, and their
number in bits. -/
def padded (block lengthSize : Nat) (highFirst : Bool) (bytes : Text) : Text :=
  let size := bytes.length
  let gap := (2 * block - (size + 1 + lengthSize) % block) % block
  let count := bytesOf lengthSize (size * 8)
  bytes ++ '\x80' :: List.replicate gap '\x00' ++ if highFirst then count else count.reverse

/-- The words of a block. -/
def wordsOf (w : Nat) (highFirst : Bool) (block : Text) : Array (BitVec w) :=
  let size := w / 8
  ((piecesOfSize size (block.length / size + 1) block).map fun p =>
    BitVec.ofNat w (number (if highFirst then p else p.reverse))).toArray

/-- The bytes of words. -/
def ofWords {w : Nat} (highFirst : Bool) (words : List (BitVec w)) : Text :=
  words.flatMap fun x =>
    let t := bytesOf (w / 8) x.toNat
    if highFirst then t else t.reverse

/-- What blocks make of a beginning, one after another. -/
def overBlocks {w : Nat} (block lengthSize : Nat) (highFirst : Bool)
    (mix : Array (BitVec w) → List (BitVec w) → List (BitVec w)) (start : List (BitVec w))
    (bytes : Text) : List (BitVec w) :=
  let t := padded block lengthSize highFirst bytes
  (piecesOfSize block (t.length / block + 1) t).foldl
    (fun done b => List.zipWith (· + ·) done (mix (wordsOf w highFirst b) done)) start

/-- Bytes in hexadecimal digits. -/
def inHex (bytes : Text) : Text :=
  bytes.flatMap fun c => [Nat.digitChar (c.toNat / 16), Nat.digitChar (c.toNat % 16)]

/-! ## Roots

The constants of some digests are the first digits of roots. -/

/-- The greatest number whose power is not above a number, built bit by bit from the highest one. -/
def root (power n : Nat) : Nat → Nat → Nat
  | 0, done => done
  | bits + 1, done =>
      let more := done + Double.twoTo bits
      if Nat.pow more power ≤ n then root power n bits more else root power n bits done

/-- The primes from a number on, so many of them. -/
def primesFrom : Nat → Nat → Nat → List Nat
  | 0, _, _ => []
  | _, 0, _ => []
  | fuel + 1, count, n =>
      if (List.range n).all fun d => d < 2 || n % d != 0 then
        n :: primesFrom fuel (count - 1) (n + 1)
      else primesFrom fuel count (n + 1)

/-- The first eighty primes. -/
def primes : List Nat := primesFrom 410 80 2

/-- The first sixty-four binary digits behind the point of a root. -/
def rootDigits (power n : Nat) : Nat :=
  root power (n * Double.twoTo (64 * power)) 70 0 % Double.twoTo 64

/-! ## The digest of 1991 -/

/-- How far the rounds turn a word. -/
def turns5 : List (List Nat) := [[7, 12, 17, 22], [5, 9, 14, 20], [4, 11, 16, 23], [6, 10, 15, 21]]

/-- The constants of the rounds. -/
def constants5 : List Nat := [
  0xd76aa478, 0xe8c7b756, 0x242070db, 0xc1bdceee, 0xf57c0faf, 0x4787c62a, 0xa8304613, 0xfd469501,
  0x698098d8, 0x8b44f7af, 0xffff5bb1, 0x895cd7be, 0x6b901122, 0xfd987193, 0xa679438e, 0x49b40821,
  0xf61e2562, 0xc040b340, 0x265e5a51, 0xe9b6c7aa, 0xd62f105d, 0x02441453, 0xd8a1e681, 0xe7d3fbc8,
  0x21e1cde6, 0xc33707d6, 0xf4d50d87, 0x455a14ed, 0xa9e3e905, 0xfcefa3f8, 0x676f02d9, 0x8d2a4c8a,
  0xfffa3942, 0x8771f681, 0x6d9d6122, 0xfde5380c, 0xa4beea44, 0x4bdecfa9, 0xf6bb4b60, 0xbebfbc70,
  0x289b7ec6, 0xeaa127fa, 0xd4ef3085, 0x04881d05, 0xd9d4d039, 0xe6db99e5, 0x1fa27cf8, 0xc4ac5665,
  0xf4292244, 0x432aff97, 0xab9423a7, 0xfc93a039, 0x655b59c3, 0x8f0ccc92, 0xffeff47d, 0x85845dd1,
  0x6fa87e4f, 0xfe2ce6e0, 0xa3014314, 0x4e0811a1, 0xf7537e82, 0xbd3af235, 0x2ad7d2bb, 0xeb86d391]

/-- One round. -/
def round5 (words : Array (BitVec 32)) (state : List (BitVec 32)) (i : Nat × Nat) :
    List (BitVec 32) :=
  match state with
  | [a, b, c, d] =>
      let (constant, n) := i
      let (f, g) := match n / 16 with
        | 0 => ((b &&& c) ||| (~~~b &&& d), n)
        | 1 => ((d &&& b) ||| (~~~d &&& c), (5 * n + 1) % 16)
        | 2 => (b ^^^ c ^^^ d, (3 * n + 5) % 16)
        | _ => (c ^^^ (b ||| ~~~d), 7 * n % 16)
      let turn := ((turns5[n / 16]?.getD [])[n % 4]?).getD 0
      let sum := a + f + BitVec.ofNat 32 constant + (words[g]?).getD 0
      [d, b + sum.rotateLeft turn, b, c]
  | _ => state

/-- The digest of 128 bits. -/
def md5 (bytes : Text) : Text :=
  let start : List (BitVec 32) := [0x67452301, 0xefcdab89, 0x98badcfe, 0x10325476]
  ofWords false (overBlocks 64 8 false
    (fun words s => constants5.zipIdx.foldl (round5 words) s) start bytes)

/-! ## The digest of 1995 -/

/-- The words of all rounds, made from those of a block. -/
def spread1 (words : Array (BitVec 32)) : Nat → Array (BitVec 32)
  | 0 => words
  | count + 1 =>
      let ws := spread1 words count
      let back := fun (n : Nat) => (ws[ws.size - n]?).getD 0
      ws.push ((back 3 ^^^ back 8 ^^^ back 14 ^^^ back 16).rotateLeft 1)

/-- One round. -/
def round1 (state : List (BitVec 32)) (i : BitVec 32 × Nat) : List (BitVec 32) :=
  match state with
  | [a, b, c, d, e] =>
      let (word, n) := i
      let (f, root) := match n / 20 with
        | 0 => ((b &&& c) ||| (~~~b &&& d), 0x5a827999)
        | 1 => (b ^^^ c ^^^ d, 0x6ed9eba1)
        | 2 => ((b &&& c) ||| (b &&& d) ||| (c &&& d), 0x8f1bbcdc)
        | _ => (b ^^^ c ^^^ d, 0xca62c1d6)
      [a.rotateLeft 5 + f + e + root + word, a, b.rotateLeft 30, c, d]
  | _ => state

/-- The digest of 160 bits. -/
def sha1 (bytes : Text) : Text :=
  let start : List (BitVec 32) :=
    [0x67452301, 0xefcdab89, 0x98badcfe, 0x10325476, 0xc3d2e1f0]
  ofWords true (overBlocks 64 8 true
    (fun words s => (spread1 words 64).toList.zipIdx.foldl round1 s) start bytes)

/-! ## The digests of 2001 -/

/-- What tells the digests of two word sizes apart: how far words are turned and shifted, and how
many rounds there are. -/
structure Kind (w : Nat) where
  large0 : List Nat
  large1 : List Nat
  small0 : List Nat
  shift0 : Nat
  small1 : List Nat
  shift1 : Nat
  constants : List (BitVec w)

/-- The digests with words of 32 bits. -/
def kind32 : Kind 32 where
  large0 := [2, 13, 22]
  large1 := [6, 11, 25]
  small0 := [7, 18]
  shift0 := 3
  small1 := [17, 19]
  shift1 := 10
  constants := (primes.take 64).map fun p => BitVec.ofNat 32 (rootDigits 3 p / Double.twoTo 32)

/-- The digests with words of 64 bits. -/
def kind64 : Kind 64 where
  large0 := [28, 34, 39]
  large1 := [14, 18, 41]
  small0 := [1, 8]
  shift0 := 7
  small1 := [19, 61]
  shift1 := 6
  constants := primes.map fun p => BitVec.ofNat 64 (rootDigits 3 p)

variable {w : Nat}

/-- A word turned in some ways, all of them put together. -/
def turned (ns : List Nat) (x : BitVec w) : BitVec w :=
  ns.foldl (fun done n => done ^^^ x.rotateRight n) 0

/-- The words of all rounds, made from those of a block. -/
def spread (k : Kind w) (words : Array (BitVec w)) : Nat → Array (BitVec w)
  | 0 => words
  | count + 1 =>
      let ws := spread k words count
      let back := fun (n : Nat) => (ws[ws.size - n]?).getD 0
      let s0 := turned k.small0 (back 15) ^^^ (back 15 >>> k.shift0)
      let s1 := turned k.small1 (back 2) ^^^ (back 2 >>> k.shift1)
      ws.push (back 16 + s0 + back 7 + s1)

/-- One round with a word and a constant. -/
def round (k : Kind w) (state : List (BitVec w)) (i : BitVec w × BitVec w) : List (BitVec w) :=
  match state with
  | [a, b, c, d, e, f, g, h] =>
      let choice := (e &&& f) ^^^ (~~~e &&& g)
      let majority := (a &&& b) ^^^ (a &&& c) ^^^ (b &&& c)
      let t1 := h + turned k.large1 e + choice + i.1 + i.2
      let t2 := turned k.large0 a + majority
      [t1 + t2, a, b, c, d + t1, e, f, g]
  | _ => state

/-- The digest of a kind from a beginning, so many words of it. -/
def sha2 (k : Kind w) (start : List Nat) (size : Nat) (bytes : Text) : Text :=
  let mix := fun (words : Array (BitVec w)) (s : List (BitVec w)) =>
    ((spread k words (k.constants.length - 16)).toList.zip k.constants).foldl (round k) s
  let made := overBlocks (2 * w) (w / 4) true mix (start.map (BitVec.ofNat w)) bytes
  (ofWords true made).take (size / 8)

/-- The digits of the square roots of eight primes. -/
def squareDigits (first : Nat) : List Nat := ((primes.drop first).take 8).map (rootDigits 2)

/-- The digest of 224 bits. -/
def sha224 : Text → Text := sha2 kind32 (squareDigits 8) 224

/-- The digest of 256 bits. -/
def sha256 : Text → Text := sha2 kind32 ((squareDigits 0).map (· / Double.twoTo 32)) 256

/-- The digest of 384 bits. -/
def sha384 : Text → Text := sha2 kind64 (squareDigits 8) 384

/-- The digest of 512 bits. -/
def sha512 : Text → Text := sha2 kind64 (squareDigits 0) 512

/-! ## Sums -/

/-- A remainder with one more byte behind it. -/
def stepRemainder (r : BitVec 32) (byte : Nat) : BitVec 32 :=
  (List.range 8).foldl
    (fun r _ => if r.msb then (r <<< 1) ^^^ 0x04c11db7 else r <<< 1)
    (r ^^^ (BitVec.ofNat 32 byte <<< 24))

/-- The bytes of a number without zeros in front, the lowest one first. -/
def lowFirst : Nat → Nat → List Nat
  | 0, _ => []
  | fuel + 1, n => if n == 0 then [] else n % 256 :: lowFirst fuel (n / 256)

/-- The remainder of the bytes with their number behind them. -/
def remainder (bytes : Text) : Nat :=
  let r := bytes.foldl (fun r c => stepRemainder r c.toNat) 0
  (~~~((lowFirst 8 bytes.length).foldl stepRemainder r)).toNat

/-- The sum of bytes that is turned behind each of them. -/
def turnedSum (bytes : Text) : Nat :=
  (bytes.foldl (fun (s : BitVec 16) c => s.rotateRight 1 + BitVec.ofNat 16 c.toNat) 0).toNat

/-- The sum of bytes with what does not fit added to it again. -/
def plainSum (bytes : Text) : Nat :=
  let s := bytes.foldl (fun n c => n + c.toNat) 0
  let r := s % 65536 + s % 4294967296 / 65536
  r % 65536 + r / 65536

end Runbook.Shell.Digest
