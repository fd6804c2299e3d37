import Runbook.Shell.Filters
import Std.Data.HashMap

set_option autoImplicit false

/-! # Differences

What must be changed in one list of lines so that another one comes of it. A shortest way is looked
for from both ends at once: the lines that lie on diagonals, where both lists have the same, cost
nothing. Lines that are nowhere in the other list are changed in any case and are left out before.
A run of changed lines that could lie in several places is moved as far down as it goes, unless it
meets a change of the other list further up.
-/

namespace Runbook.Shell

namespace Difference

/-! ## Marks -/

/-- Whether a place is marked. -/
def isMarked (marks : Array Bool) (i : Nat) : Bool := marks[i]?.getD false

/-- Whether the place before one is marked. -/
def isMarkedBefore (marks : Array Bool) (i : Nat) : Bool := 0 < i && isMarked marks (i - 1)

/-- The marks with a stretch of them set. -/
def markFrom (marks : Array Bool) (first last : Nat) : Array Bool :=
  (List.range (last - first)).foldl (fun m k => m.setIfInBounds (first + k) true) marks

/-! ## The middle of a shortest way -/

/-- The part of two lists that is looked at: from one place to another one in each. -/
structure Area where
  first : Nat
  firstEnd : Nat
  second : Nat
  secondEnd : Nat

/-- How far the ways from both ends have come on each diagonal, and which diagonals they have
reached. -/
structure Fronts where
  ahead : Array Int
  back : Array Int
  aheadLow : Int
  aheadHigh : Int
  backLow : Int
  backHigh : Int

/-- A number above all places. -/
def beyond : Int := 1000000000

/-- How far the lists stay the same from two places on. -/
def slide (same : Nat → Nat → Bool) (a : Area) : Nat → Nat → Nat → Nat
  | 0, x, _ => x
  | fuel + 1, x, y =>
      if x < a.firstEnd && y < a.secondEnd && same x y then slide same a fuel (x + 1) (y + 1)
      else x

/-- How far back the lists stay the same from two places. -/
def slideBack (same : Nat → Nat → Bool) (a : Area) : Nat → Nat → Nat → Nat
  | 0, x, _ => x
  | fuel + 1, x, y =>
      if a.first < x && a.second < y && same (x - 1) (y - 1) then
        slideBack same a fuel (x - 1) (y - 1)
      else x

variable (same : Nat → Nat → Bool) (a : Area) (shift : Int)

/-- How far the way has come on a diagonal. -/
def at? (front : Array Int) (d : Int) : Int := front[(d + shift).toNat]?.getD 0

/-- The front with the way on a diagonal set. -/
def reach (front : Array Int) (d x : Int) : Array Int := front.setIfInBounds (d + shift).toNat x

/-- Goes one step further on each diagonal from `d` down, or gives the place where the ways from
both ends meet. -/
def stepAhead (odd : Bool) (f : Fronts) : Nat → Int → Array Int → Except (Nat × Nat) (Array Int)
  | 0, _, ahead => .ok ahead
  | fuel + 1, d, ahead =>
      if d < f.aheadLow then .ok ahead
      else
        let low := at? shift ahead (d - 1)
        let high := at? shift ahead (d + 1)
        let x0 := if low < high then high else low + 1
        let x := slide same a (a.firstEnd + 1) x0.toNat (x0 - d).toNat
        if odd && f.backLow ≤ d && d ≤ f.backHigh && at? shift f.back d ≤ x then
          .error (x, (x - d).toNat)
        else stepAhead odd f fuel (d - 2) (reach shift ahead d x)

/-- Goes one step back on each diagonal from `d` down, or gives the place where the ways from both
ends meet. -/
def stepBack (odd : Bool) (f : Fronts) : Nat → Int → Array Int → Except (Nat × Nat) (Array Int)
  | 0, _, back => .ok back
  | fuel + 1, d, back =>
      if d < f.backLow then .ok back
      else
        let low := at? shift back (d - 1)
        let high := at? shift back (d + 1)
        let x0 := if low < high then low else high - 1
        let x := slideBack same a (a.firstEnd + 1) x0.toNat (x0 - d).toNat
        if !odd && f.aheadLow ≤ d && d ≤ f.aheadHigh && x ≤ at? shift f.ahead d then
          .error (x, (x - d).toNat)
        else stepBack odd f fuel (d - 2) (reach shift back d x)

/-- The place where shortest ways from both ends meet. -/
def middle (low high : Int) (odd : Bool) : Nat → Fronts → Nat × Nat
  | 0, _ => (a.first, a.second)
  | fuel + 1, f =>
      let width := (high - low).toNat + 2
      let f : Fronts := if low < f.aheadLow then
          { f with aheadLow := f.aheadLow - 1, ahead := reach shift f.ahead (f.aheadLow - 2) (-1) }
        else { f with aheadLow := f.aheadLow + 1 }
      let f : Fronts := if f.aheadHigh < high then
          { f with
            aheadHigh := f.aheadHigh + 1
            ahead := reach shift f.ahead (f.aheadHigh + 2) (-1) }
        else { f with aheadHigh := f.aheadHigh - 1 }
      match stepAhead same a shift odd f width f.aheadHigh f.ahead with
      | .error place => place
      | .ok ahead =>
          let f : Fronts := { f with ahead }
          let f : Fronts := if low < f.backLow then
              { f with backLow := f.backLow - 1, back := reach shift f.back (f.backLow - 2) beyond }
            else { f with backLow := f.backLow + 1 }
          let f : Fronts := if f.backHigh < high then
              { f with
                backHigh := f.backHigh + 1
                back := reach shift f.back (f.backHigh + 2) beyond }
            else { f with backHigh := f.backHigh - 1 }
          match stepBack same a shift odd f width f.backHigh f.back with
          | .error place => place
          | .ok back => middle low high odd fuel { f with back }

/-- The marks of the lines of two lists that are changed. -/
abbrev Marks := Array Bool × Array Bool

/-- Marks the lines that are not on a shortest way through a part of two lists. -/
def compare : Nat → Area → Marks → Marks
  | 0, a, (m, n) => (markFrom m a.first a.firstEnd, markFrom n a.second a.secondEnd)
  | fuel + 1, a, (m, n) =>
      let x := slide same a (a.firstEnd + 1) a.first a.second
      let b : Area := { a with first := x, second := a.second + (x - a.first) }
      let stop := slideBack same b (b.firstEnd + 1) b.firstEnd b.secondEnd
      let b : Area := { b with firstEnd := stop, secondEnd := b.secondEnd - (b.firstEnd - stop) }
      if b.first == b.firstEnd then (m, markFrom n b.second b.secondEnd)
      else if b.second == b.secondEnd then (markFrom m b.first b.firstEnd, n)
      else
        let shift : Int := b.secondEnd + 1
        let low : Int := (b.first : Int) - b.secondEnd
        let high : Int := (b.firstEnd : Int) - b.second
        let begin : Int := (b.first : Int) - b.second
        let finish : Int := (b.firstEnd : Int) - b.secondEnd
        let empty := Array.replicate (b.firstEnd + b.secondEnd + 3) (0 : Int)
        let f : Fronts := {
          ahead := reach shift empty begin b.first
          back := reach shift empty finish b.firstEnd
          aheadLow := begin, aheadHigh := begin, backLow := finish, backHigh := finish }
        let odd := (begin - finish) % 2 != 0
        let steps := b.firstEnd + b.secondEnd + 2
        let (p, q) := middle same b shift low high odd steps f
        compare fuel { b with first := p, second := q }
          (compare fuel { b with firstEnd := p, secondEnd := q } (m, n))

end Difference

/-! ## Lines that are left out -/

namespace Difference

/-- What is done with a line before the lists are compared. -/
inductive Fate where
  | kept
  | left
  /-- It is left out only among lines that are left out in any case. -/
  | doubtful
  deriving DecidableEq, Repr

/-- Doubtful lines are kept from the beginning of a run on, until three lines in a row are left out
or a line is left out that is at least the ninth. -/
def keepAtStart : Nat → Nat → List Fate → List Fate
  | _, _, [] => []
  | place, row, f :: rest =>
      if 8 ≤ place && f == .left then f :: rest
      else
        match f with
        | .doubtful => .kept :: keepAtStart (place + 1) 0 rest
        | .kept => .kept :: keepAtStart (place + 1) 0 rest
        | .left =>
            if row == 2 then .left :: rest
            else .left :: keepAtStart (place + 1) (row + 1) rest

/-- Keeps rows of at least so many doubtful lines. -/
def keepRows (least : Nat) : Nat → List Fate → List Fate
  | 0, fates => fates
  | _, [] => []
  | fuel + 1, f :: rest =>
      if f == .doubtful then
        let row := (f :: rest).takeWhile (· == .doubtful)
        (if least ≤ row.length then row.map fun _ => .kept else row) ++
          keepRows least fuel ((f :: rest).drop row.length)
      else f :: keepRows least fuel rest

/-- The number of times that a number can be divided by four before it is nothing. -/
def fourths : Nat → Nat → Nat
  | 0, _ => 0
  | fuel + 1, n => if n / 4 == 0 then 0 else fourths fuel (n / 4) + 1

/-- Settles a run of lines that begins with one that is left out. -/
def settleRun (run : List Fate) : List Fate :=
  let doubtfulEnd := run.reverse.takeWhile (· == .doubtful)
  let body := run.take (run.length - doubtfulEnd.length)
  let doubtful := body.countP (· == .doubtful)
  let settled :=
    if body.length < doubtful * 4 then body.map fun f => if f == .doubtful then .kept else f
    else
      let least := Nat.pow 2 (fourths body.length (body.length / 4)) + 1
      let rows := keepRows least (body.length + 1) body
      (keepAtStart 0 0 (keepAtStart 0 0 rows).reverse).reverse
  settled ++ doubtfulEnd.map fun _ => .kept

/-- Settles which doubtful lines are left out. -/
def settle : Nat → List Fate → List Fate
  | 0, _ => []
  | _, [] => []
  | fuel + 1, f :: rest =>
      match f with
      | .left =>
          let run := (f :: rest).takeWhile (· != .kept)
          settleRun run ++ settle fuel ((f :: rest).drop run.length)
      | _ => .kept :: settle fuel rest

/-- What is done with the lines of one list. -/
def fates (lines : Array Nat) (others : Std.HashMap Nat Nat) : Array Fate :=
  let many := 5 * Nat.pow 2 (fourths lines.size (lines.size / 64))
  let marks := lines.toList.map fun l =>
    let n := others.getD l 0
    if n == 0 then Fate.left else if many < n then .doubtful else .kept
  (settle (lines.size + 1) marks).toArray

/-- How often each line is in a list. -/
def countsOf (lines : Array Nat) : Std.HashMap Nat Nat :=
  lines.foldl (fun t l => t.insert l (t.getD l 0 + 1)) ∅

/-- Marks the lines of two lists that are changed. -/
def marksOf (xs ys : Array Nat) : Marks :=
  let keep := fun (lines : Array Nat) (fs : Array Fate) =>
    ((List.range lines.size).filter fun i => fs[i]? == some .kept).toArray
  let f := fates xs (countsOf ys)
  let g := fates ys (countsOf xs)
  let i := keep xs f
  let j := keep ys g
  let same := fun (p q : Nat) =>
    (i[p]?.bind (xs[·]?)) == (j[q]?.bind (ys[·]?))
  let whole : Area := ⟨0, i.size, 0, j.size⟩
  let (m, n) := compare same (i.size + j.size + 2) whole
    (Array.replicate i.size false, Array.replicate j.size false)
  let spread := fun (size : Nat) (kept : Array Nat) (marks : Array Bool) =>
    (List.range kept.size).foldl (fun all k =>
      match kept[k]? with
      | some place => all.setIfInBounds place (isMarked marks k)
      | none => all) (Array.replicate size true)
  (spread xs.size i m, spread ys.size j n)

/-! ## Moving runs -/

/-- A run of changed lines of one list while it is moved. -/
structure Drift where
  /-- The marks of the list, and those of the other one. -/
  marks : Array Bool
  others : Array Bool
  start : Nat
  stop : Nat
  /-- The place in the other list that belongs to the end of the run. -/
  place : Nat
  /-- The end at which the run meets a change of the other list, if there is one. -/
  met : Option Nat := none

namespace Drift

/-- The first place before one that is not marked. -/
def above (marks : Array Bool) : Nat → Nat
  | 0 => 0
  | n + 1 => if isMarked marks n then above marks n else n

/-- The first place from one on that is not marked. -/
def below (marks : Array Bool) : Nat → Nat → Nat
  | 0, i => i
  | fuel + 1, i => if isMarked marks i then below marks fuel (i + 1) else i

/-- The run moved up by one line. -/
def up (d : Drift) : Drift :=
  { d with
    marks := (d.marks.setIfInBounds (d.start - 1) true).setIfInBounds (d.stop - 1) false
    start := d.start - 1
    stop := d.stop - 1
    place := above d.others d.place }

/-- The beginning of a run that ends at a place. -/
def beginning (marks : Array Bool) : Nat → Nat
  | 0 => 0
  | n + 1 => if isMarked marks n then beginning marks n else n + 1

variable (lines : Array Nat)

/-- The run moved up as far as it goes, together with those that it meets. -/
def upAll : Nat → Drift → Drift
  | 0, d => d
  | fuel + 1, d =>
      if 0 < d.start && lines[d.start - 1]? == lines[d.stop - 1]? then
        let moved := d.up
        upAll fuel { moved with start := beginning moved.marks moved.start }
      else d

/-- The run moved down as far as it goes, together with those that it meets. -/
def downAll : Nat → Drift → Drift
  | 0, d => d
  | fuel + 1, d =>
      if d.stop < lines.size && lines[d.start]? == lines[d.stop]? then
        let marks := (d.marks.setIfInBounds d.start false).setIfInBounds d.stop true
        let stop := below marks lines.size (d.stop + 1)
        let place := below d.others (d.others.size + 1) (d.place + 1)
        downAll fuel { d with
          marks, stop, place
          start := d.start + 1
          met := if isMarked d.others (d.place + 1) then some stop else d.met }
      else d

/-- The run moved down as far as it goes when it has met all runs that it can meet. -/
def rest : Nat → Drift → Drift
  | 0, d => d
  | fuel + 1, d =>
      let length := d.stop - d.start
      let u := upAll lines (lines.size + 1) d
      let met := if isMarkedBefore u.others u.place then some u.stop else none
      let v := downAll lines (lines.size + 1) { u with met }
      if v.stop - v.start == length then v else rest fuel v

/-- The run moved up to where it meets a change of the other list. -/
def meet : Nat → Drift → Drift
  | 0, d => d
  | fuel + 1, d => if d.met.any (· < d.stop) then meet fuel d.up else d

end Drift

/-- Moves the runs of changed lines of a list, from a line on. -/
def moveRuns (lines : Array Nat) : Nat → Nat → Nat → Marks → Marks
  | 0, _, _, m => m
  | fuel + 1, i, j, (marks, others) =>
      if lines.size ≤ i then (marks, others)
      else if !isMarked marks i then
        moveRuns lines fuel (i + 1) (Drift.below others (others.size + 1) j + 1) (marks, others)
      else
        let d : Drift := { marks, others, start := i, stop := Drift.below marks lines.size i
                           place := Drift.below others (others.size + 1) j }
        let e := (d.rest lines (lines.size + 2)).meet (lines.size + 1)
        moveRuns lines fuel e.stop e.place (e.marks, others)

/-! ## Changes -/

/-- A change: so many lines from a place of the first list on are replaced by so many of the second
one. -/
structure Change where
  first : Nat
  second : Nat
  deleted : Nat
  inserted : Nat
  deriving DecidableEq, Repr

/-- The changes that marks show, from two places on. -/
def changesOf : Nat → Nat → Nat → List Bool → List Bool → List Change
  | 0, _, _, _, _ => []
  | _, _, _, [], [] => []
  | fuel + 1, i, j, m, n =>
      let deleted := (m.takeWhile id).length
      let inserted := (n.takeWhile id).length
      let rest := changesOf fuel (i + deleted + 1) (j + inserted + 1) (m.drop (deleted + 1))
        (n.drop (inserted + 1))
      if deleted == 0 && inserted == 0 then rest else ⟨i, j, deleted, inserted⟩ :: rest

/-- How many lines two lists have in common at their beginnings. -/
def commonStart {α : Type} [BEq α] : List α → List α → Nat
  | x :: xs, y :: ys => if x == y then commonStart xs ys + 1 else 0
  | _, _ => 0

/-- A number for each line, the same for lines that count as the same. -/
def numbered (canonical : Text → Text) (lines : List Text)
    (known : Std.HashMap String Nat) : Array Nat × Std.HashMap String Nat :=
  lines.foldl (fun (done, known) l =>
    let key := String.ofList (canonical l)
    match known[key]? with
    | some n => (done.push n, known)
    | none => (done.push (known.size + 1), known.insert key (known.size + 1))) (#[], known)

/-- The changes that make the second list of the first one. So many lines that are the same around
the first and the last difference are looked at. -/
def changes (canonical : Text → Text) (around : Nat) (xs ys : List Text) : List Change :=
  let start := commonStart xs ys
  let left := commonStart (xs.drop start).reverse (ys.drop start).reverse
  let skipped := start - around
  let ending := left - around
  let inner := fun (ls : List Text) => (ls.take (ls.length - ending)).drop skipped
  let (a, known) := numbered canonical (inner xs) ∅
  let (b, _) := numbered canonical (inner ys) known
  let m := marksOf a b
  let m := moveRuns a (a.size + 1) 0 0 m
  let (n, m) := moveRuns b (b.size + 1) 0 0 (m.2, m.1)
  changesOf (a.size + b.size + 1) skipped skipped m.toList n.toList

end Difference

end Runbook.Shell
