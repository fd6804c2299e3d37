import Runbook.Text.Basic
import Std.Data.HashMap

set_option autoImplicit false

/-! # Tables

A table gives a value for each of its keys, which are texts; a whole number counts as the text of
its digits. A loop over the keys meets them in the order of rows, into which they are sorted by a
number that is computed from their bytes. In a row the key comes first that was used last. Keys that
came as numbers have rows of their own, and are sorted into the others only when they are looked at
as texts.
-/

namespace Runbook.Shell.Scanning

/-- What is looked for in a table. -/
inductive Key where
  | number (n : Int)
  | text (t : Text)
  deriving DecidableEq, Repr

/-- The key as a text. -/
def Key.shown : Key → Text
  | number n => Text.ofInt n
  | text t => t

/-- The name under which the value of the key is kept. -/
def Key.name (k : Key) : String := String.ofList k.shown

/-- A table. -/
structure Table (α : Type) where
  values : Std.HashMap String α := ∅
  /-- The rows of the keys that have been looked at as texts, and of those that came as numbers. -/
  texts : Array (List Text) := #[]
  numbers : Array (List Int) := #[]
  /-- Whether all keys have been looked at as texts. -/
  isSorted : Bool := false
  /-- How many numbers from one on are keys if nothing else is. -/
  isList : Bool := false

namespace Table

variable {α : Type}

/-- How many rows a table has at first. -/
def firstRows : Nat := 64

/-- How many keys for each row make a table grow. -/
def perRow : Nat := 12

/-- The table without keys. -/
def empty : Table α :=
  { texts := Array.replicate firstRows [], numbers := Array.replicate firstRows [] }

instance : Inhabited (Table α) := ⟨empty⟩

/-- How many rows there are. -/
def rows (t : Table α) : Nat := t.texts.size

/-- How many keys there are. -/
def size (t : Table α) : Nat := t.values.size

/-- The number that is computed from the bytes of a text. -/
def number (t : Text) : UInt32 :=
  t.foldl (fun h c => (h ^^^ c.toNat.toUInt32) * 16777619) 2166136261

/-- The row of a text. -/
def rowOf (t : Table α) (k : Text) : Nat := (number k).toNat % t.rows

/-- The row of a number. -/
def rowOfNumber (t : Table α) (n : Int) : Nat := (n % (t.rows : Int)).toNat

/-- Puts a text at the front of its row. -/
def toFront (t : Table α) (k : Text) : Table α :=
  { t with texts := t.texts.modify (t.rowOf k) fun row => k :: row.erase k }

/-- Puts a number at the front of its row. -/
def numberToFront (t : Table α) (n : Int) : Table α :=
  { t with numbers := t.numbers.modify (t.rowOfNumber n) fun row => n :: row.erase n }

/-- The table with all keys sorted as texts. -/
def sorted (t : Table α) : Table α :=
  if t.isSorted then t
  else
    let all := t.numbers.toList.flatten
    let done := all.foldl (fun (t : Table α) n =>
      let k := Text.ofInt n
      if (t.texts[t.rowOf k]?.getD []).contains k then t else t.toFront k) t
    { done with isSorted := true }

/-- The table with its numbers in rows. -/
def spread (t : Table α) : Table α :=
  if t.isList then
    (List.range t.size).foldl (fun (t : Table α) i => t.numberToFront (i + 1 : Nat))
      { t with isList := false }
  else t

/-- The table with twice as many rows. -/
def grown (t : Table α) : Table α :=
  let count := 2 * t.rows
  let bigger : Table α := { t with
    texts := Array.replicate count [], numbers := Array.replicate count [] }
  let texts := (List.range count).map fun i =>
    (t.texts[i % t.rows]?.getD []).filter fun k => bigger.rowOf k == i
  let numbers := (List.range count).map fun i =>
    (t.numbers[i % t.rows]?.getD []).filter fun n => bigger.rowOfNumber n == i
  { t with texts := texts.toArray, numbers := numbers.toArray }

/-- Whether a key is there. -/
def has (t : Table α) (k : Key) : Bool := t.values.contains k.name

/-- Takes note of a key that is used; `makes` says whether it becomes one if it is none. -/
def touched (t : Table α) (k : Key) (makes : Bool) : Table α :=
  let known := t.has k
  let isOwn := match k with
    | .number _ => t.isList && known
    | .text _ => false
  if isOwn || (!known && !makes) then t
  else
    let t := if !known || !t.isList then t.spread else t
    match k with
    | .number n =>
        let inRow := (t.numbers[t.rowOfNumber n]?.getD []).contains n
        let t := if !known && t.rows * perRow < t.size + 1 then t.grown else t
        let t := if inRow || !t.isSorted then t else t.toFront k.shown
        t.numberToFront n
    | .text s =>
        let t := t.spread.sorted
        let t := if !known && t.rows * perRow < t.size + 1 then t.grown else t
        t.toFront s

/-- The value of a key, if it is there. -/
def get? (t : Table α) (k : Key) : Option α := t.values[k.name]?

/-- The table with a value for a key. -/
def insert (t : Table α) (k : Key) (a : α) : Table α :=
  let t := t.touched k true
  { t with values := t.values.insert k.name a }

/-- The table without a key. -/
def erase (t : Table α) (k : Key) : Table α :=
  if !t.has k then t
  else
    let t := match k with
      | .number _ => t.spread
      | .text _ => t.spread.sorted
    let s := k.shown
    let numbers := match s.all (fun c => c.isDigit || c == '-'), k with
      | _, .number n => t.numbers.modify (t.rowOfNumber n) (·.erase n)
      | true, .text _ => t.numbers.map fun row => row.filter fun n => Text.ofInt n != s
      | false, .text _ => t.numbers
    { t with
      values := t.values.erase k.name
      texts := t.texts.modify (t.rowOf s) (·.erase s)
      numbers }

/-- The keys in the order in which a loop meets them, and the table behind that. -/
def keys (t : Table α) : List Text × Table α :=
  let s := t.spread.sorted
  (s.texts.toList.flatten, s)

/-- The table that a list makes. -/
def ofList (values : List α) : Table α :=
  let t : Table α := values.zipIdx.foldl (fun (t : Table α) (a, i) =>
    { t with values := t.values.insert (Key.number (i + 1 : Nat)).name a }) empty
  let enough := (List.range 32).foldl (fun (t : Table α) _ =>
    if t.rows * perRow < t.size then t.grown else t) t
  { enough with isList := true }

end Table

end Runbook.Shell.Scanning
