import Runbook.Text.Basic

set_option autoImplicit false

/-! # Similar names

How alike two texts are. Their longest common run is matched first, then what lies left of it
and what lies right of it, each in the same way; the likeness is twice the number of matched
characters over the sum of the two lengths. Of several longest runs the one that begins earliest
in the first text counts, then the one that begins earliest in the second.

In a long second text (200 characters or more) a character that makes up more than one
hundredth of it is *common*. A run may only begin to be found at characters that are not common;
it is then lengthened over common ones on both sides.
-/

namespace Runbook.Similar

/-- A run of characters that two texts share: where it begins in each, and its length. -/
structure Run where
  left : Nat
  right : Nat
  size : Nat
  deriving DecidableEq, Repr

/-- The lengths of the seed runs that end at the character `c` of the first text and at each
place of the second, from the lengths `above` for the character before `c`. -/
def runsAt (seed : Char → Bool) (c : Char) (b : Text) (above : List Nat) : List Nat :=
  List.zipWith (fun x n => if x == c && seed x then n + 1 else 0) b (0 :: above)

/-- The better of a run and those that end at place `i` of the first text, `j` counting the
places of the second. A run gives way to a longer one only. -/
def bestOf (i : Nat) : Nat → List Nat → Run → Run
  | _, [], best => best
  | j, n :: more, best =>
      bestOf i (j + 1) more (if n > best.size then ⟨i + 1 - n, j + 1 - n, n⟩ else best)

/-- The earliest longest seed run. -/
def seedRun (seed : Char → Bool) (b : Text) : Nat → Text → List Nat → Run → Run
  | _, [], _, best => best
  | i, c :: a, above, best =>
      let here := runsAt seed c b above
      seedRun seed b (i + 1) a here (bestOf i 0 here best)

/-- The number of leading characters that two texts share. -/
def commonLength : Text → Text → Nat
  | x :: a, y :: b => if x == y then commonLength a b + 1 else 0
  | _, _ => 0

/-- The longest common run, grown over common characters on both sides. -/
def longestRun (seed : Char → Bool) (a b : Text) : Run :=
  let run := seedRun seed b 0 a (b.map fun _ => 0) ⟨0, 0, 0⟩
  let back := commonLength (a.take run.left).reverse (b.take run.right).reverse
  let onward := commonLength (a.drop (run.left + run.size)) (b.drop (run.right + run.size))
  ⟨run.left - back, run.right - back, back + run.size + onward⟩

/-- The number of characters matched in two texts. Each round matches at least one character
of the first text, so `rounds` of its length reach the end. -/
def matchedIn (seed : Char → Bool) : Nat → Text → Text → Nat
  | 0, _, _ => 0
  | rounds + 1, a, b =>
      let run := longestRun seed a b
      if run.size == 0 then 0
      else
        matchedIn seed rounds (a.take run.left) (b.take run.right) + run.size +
          matchedIn seed rounds (a.drop (run.left + run.size)) (b.drop (run.right + run.size))

/-- The common characters of a text. -/
def commonChars (b : Text) : Text :=
  if b.length < 200 then [] else b.eraseDups.filter fun c => b.length / 100 + 1 < b.count c

/-- The number of characters matched in two texts, `b` deciding which characters are common. -/
def matched (a b : Text) : Nat :=
  let common := commonChars b
  matchedIn (fun c => !common.contains c) a.length a b

/-- A likeness as a fraction: twice the matched characters, over both lengths. -/
structure Likeness where
  shared : Nat
  total : Nat

/-- The likeness of `a` to `b`. Two empty texts are alike. -/
def likeness (a b : Text) : Likeness :=
  if a.length + b.length == 0 then ⟨1, 1⟩ else ⟨2 * matched a b, a.length + b.length⟩

/-- Three fifths or more. -/
def Likeness.isClose (l : Likeness) : Bool := 3 * l.total ≤ 5 * l.shared

/-- Strictly smaller as a fraction. -/
def Likeness.less (l m : Likeness) : Bool := l.shared * m.total < m.shared * l.total

/-- Of two candidates the more alike one; of equally alike ones the later in dictionary order. -/
def prefer (best : Option (Likeness × Text)) (l : Likeness) (name : Text) :
    Option (Likeness × Text) :=
  match best with
  | none => some (l, name)
  | some (m, other) =>
      if m.less l || (!l.less m && Text.before other name) then some (l, name) else best

/-- The name closest to `word` among those that are close to it. -/
def closest? (word : Text) (names : List Text) : Option Text :=
  let step := fun best name =>
    let l := likeness name word
    if l.isClose then prefer best l name else best
  (names.foldl step none).map (·.2)

end Runbook.Similar
