import Runbook.Shell.Dates
import Runbook.Shell.Listing

set_option autoImplicit false

/-! # Finding files

The language of the utility that looks for files: criteria, which may also do something with what
they are asked about, and how they are read from words. A conjunction binds closer than a
disjunction, and what stands behind a criterion is only looked at if the answer still depends on
it.
-/

namespace Runbook.Shell

/-! ## Criteria -/

/-- A number that is compared: it must be the same, or less, or more. -/
structure Bound where
  order : Ordering
  n : Nat
  deriving DecidableEq, Repr

/-- Whether a number is as the bound says. -/
def Bound.holds (b : Bound) (n : Nat) : Bool := compare n b.n == b.order

/-- How permissions are compared: they must be the same, or hold all bits, or any of them. -/
inductive BitTest where
  | same
  | all
  | any
  deriving DecidableEq, Repr

/-- What a file must be to be found. -/
inductive Criterion where
  | name (folded : Bool) (p : List Piece)
  | path (folded : Bool) (p : List Piece)
  | kind (letters : List Char)
  | empty
  | always (value : Bool)
  /-- It was changed later than another file, or than a moment. -/
  | newer (reference : Text)
  | later (moment : Int)
  /-- Its age in units of so many seconds. -/
  | age (unit : Nat) (b : Bound)
  /-- Its length in units of so many bytes. -/
  | size (unit : Nat) (b : Bound)
  | links (b : Bound)
  | bits (how : BitTest) (mode : Nat)
  | runnable
  | sameFile (reference : Text)
  | print (last : Char)
  | format (t : Text)
  | delete
  | run (words : List Text) (together : Bool)
  /-- What lies below is not looked at. -/
  | prune
  | quit
  | negation (a : Criterion)
  | both (a b : Criterion)
  | either (a b : Criterion)
  | sequence (a b : Criterion)

/-- Why words are no criterion. -/
inductive CriterionFault where
  | unknown (t : Text)
  | misplaced (t : Text)
  | missing (t : Text)
  | badKind (t : Text)
  | badValue (t name : Text)
  | badMode (t : Text)
  | badUnit (t : Text)
  | nothing (t : Text)
  | unmatched

/-- The fault in words. -/
def CriterionFault.message : CriterionFault → Text
  | .unknown t => "unknown predicate \x60".toList ++ t ++ ['\'']
  | .misplaced t => "paths must precede expression: \x60".toList ++ t ++ ['\'']
  | .missing t => "missing argument to \x60".toList ++ t ++ ['\'']
  | .badKind t => "Unknown argument to -type: ".toList ++ t
  | .badValue t name => "invalid argument \x60".toList ++ t ++ "' to \x60".toList ++ name ++ ['\'']
  | .badUnit t => "invalid -size type \x60".toList ++ t ++ ['\'']
  | .badMode t => "invalid mode ".toList ++ quoted t
  | .nothing t => "invalid expression; you have used a binary operator '".toList ++ t ++
      "' with nothing before it.".toList
  | .unmatched => ("invalid expression; I was expecting to find a ')' somewhere but did not " ++
      "see one.").toList

namespace Criterion

/-- Whether the criterion does something with what it finds. -/
def acts : Criterion → Bool
  | print _ => true
  | format _ => true
  | delete => true
  | run _ _ => true
  | quit => false
  | negation a => a.acts
  | both a b => a.acts || b.acts
  | either a b => a.acts || b.acts
  | sequence a b => a.acts || b.acts
  | _ => false

/-- The files that a criterion compares with. -/
def references : Criterion → List Text
  | newer t => [t]
  | sameFile t => [t]
  | negation a => a.references
  | both a b => a.references ++ b.references
  | either a b => a.references ++ b.references
  | sequence a b => a.references ++ b.references
  | _ => []

/-! ## Reading -/

/-- The pattern that a text is. -/
def pattern (t : Text) : List Piece := patternOf (t.map fun c => (false, c))

/-- The bound that a text is, and what stands behind its number. -/
def bound? (t : Text) : Option (Bound × Text) :=
  let (order, rest) := match t with
    | '+' :: rest => (Ordering.gt, rest)
    | '-' :: rest => (Ordering.lt, rest)
    | _ => (Ordering.eq, t)
  let digits := rest.takeWhile Char.isDigit
  if digits.isEmpty then none else some (⟨order, inBase 10 digits⟩, rest.drop digits.length)

/-- The criterion of permissions that a text is. -/
def bitTest? (t : Text) : Option Criterion :=
  let (how, mode) := match t with
    | '-' :: rest => (BitTest.all, rest)
    | '/' :: rest => (BitTest.any, rest)
    | _ => (BitTest.same, t)
  (modeChanges? mode).map fun changes => .bits how (changedMode changes false 0 0)

/-- The criterion of a word whose value is the next word; `now` is the time. -/
def ofValue? (now : Int) (w v : Text) : Option (Except CriterionFault Criterion) :=
  let bad := CriterionFault.badValue v w
  let counted := fun (f : Bound → Criterion) => some (match bound? v with
    | some (b, []) => .ok (f b)
    | _ => .error bad)
  match String.ofList w with
  | "-name" => some (.ok (.name false (pattern v)))
  | "-iname" => some (.ok (.name true (pattern (v.map Char.toLower))))
  | "-path" => some (.ok (.path false (pattern v)))
  | "-wholename" => some (.ok (.path false (pattern v)))
  | "-ipath" => some (.ok (.path true (pattern (v.map Char.toLower))))
  | "-type" =>
      let letters := (v.splitOn ',').flatten
      some (if letters.all "bcdpflsD".toList.contains && !letters.isEmpty then .ok (.kind letters)
        else .error (.badKind v))
  | "-maxdepth" => some (.ok (.always true))
  | "-mindepth" => some (.ok (.always true))
  | "-newer" => some (.ok (.newer v))
  | "-newermt" => some (match Date.moment? now v with
      | some m => .ok (.later m)
      | none => .error bad)
  | "-samefile" => some (.ok (.sameFile v))
  | "-mtime" => counted (.age 86400)
  | "-mmin" => counted (.age 60)
  | "-links" => counted .links
  | "-user" => some (.ok (.always (v == userName || v == ['0'])))
  | "-group" => some (.ok (.always (v == userName || v == ['0'])))
  | "-size" => some (match bound? v with
      | some (b, unit) =>
          match String.ofList unit with
          | "" => .ok (.size 512 b)
          | "b" => .ok (.size 512 b)
          | "c" => .ok (.size 1 b)
          | "w" => .ok (.size 2 b)
          | "k" => .ok (.size 1024 b)
          | "M" => .ok (.size 1048576 b)
          | "G" => .ok (.size 1073741824 b)
          | _ => .error (.badUnit unit)
      | none => .error bad)
  | "-perm" => some (match bitTest? v with
      | some c => .ok c
      | none => .error (.badMode v))
  | "-printf" => some (.ok (.format v))
  | _ => none

/-- The criterion that a word is by itself. -/
def ofWord? (w : Text) : Option Criterion :=
  match String.ofList w with
  | "-empty" => some .empty
  | "-true" => some (.always true)
  | "-false" => some (.always false)
  | "-depth" => some (.always true)
  | "-d" => some (.always true)
  | "-mount" => some (.always true)
  | "-xdev" => some (.always true)
  | "-noleaf" => some (.always true)
  | "-follow" => some (.always true)
  | "-readable" => some (.always true)
  | "-writable" => some (.always true)
  | "-executable" => some .runnable
  | "-print" => some (.print '\n')
  | "-print0" => some (.print '\x00')
  | "-delete" => some .delete
  | "-prune" => some .prune
  | "-quit" => some .quit
  | _ => none

/-- Whether a word joins two criteria. -/
def isOr (w : Text) : Bool := w == ['-', 'o'] || w == "-or".toList

/-- Whether a word joins two criteria that must both be met. -/
def isAnd (w : Text) : Bool := w == ['-', 'a'] || w == "-and".toList

mutual

/-- Reads criteria of which only the last one counts. -/
def listOf (now : Int) (fuel : Nat) (words : List Text) :
    Except CriterionFault (Criterion × List Text) :=
  match fuel with
  | 0 => .error .unmatched
  | fuel + 1 => do
      let (a, rest) ← alternatives now fuel words
      match rest with
      | [','] :: more =>
          let (b, rest) ← listOf now fuel more
          .ok (.sequence a b, rest)
      | rest => .ok (a, rest)

/-- Reads alternatives. -/
def alternatives (now : Int) (fuel : Nat) (words : List Text) :
    Except CriterionFault (Criterion × List Text) :=
  match fuel with
  | 0 => .error .unmatched
  | fuel + 1 => do
      let (a, rest) ← conjunction now fuel words
      match rest with
      | w :: more =>
          if isOr w then
            let (b, rest) ← alternatives now fuel more
            .ok (.either a b, rest)
          else .ok (a, rest)
      | [] => .ok (a, [])

/-- Reads criteria that must all be met. -/
def conjunction (now : Int) (fuel : Nat) (words : List Text) :
    Except CriterionFault (Criterion × List Text) :=
  match fuel with
  | 0 => .error .unmatched
  | fuel + 1 => do
      let (a, rest) ← single now fuel words
      match rest with
      | [] => .ok (a, [])
      | w :: more =>
          if isOr w || w == [')'] || w == [','] then .ok (a, rest)
          else
            let (b, rest) ← conjunction now fuel (if isAnd w then more else rest)
            .ok (.both a b, rest)

/-- Reads one criterion. -/
def single (now : Int) (fuel : Nat) (words : List Text) :
    Except CriterionFault (Criterion × List Text) :=
  match fuel with
  | 0 => .error .unmatched
  | fuel + 1 =>
      match words with
      | [] => .ok (.always true, [])
      | w :: rest =>
          if w == ['!'] || w == "-not".toList then do
            let (a, rest) ← single now fuel rest
            .ok (.negation a, rest)
          else if w == ['('] then do
            let (a, rest) ← listOf now fuel rest
            match rest with
            | [')'] :: more => .ok (a, more)
            | _ => .error .unmatched
          else if w == "-exec".toList then
            let command := rest.takeWhile fun t => t != [';'] && t != ['+']
            match rest.drop command.length with
            | [] => .error (.missing w)
            | e :: more => .ok (.run (if e == ['+'] then command.dropLast else command)
                (e == ['+']), more)
          else if isOr w || isAnd w then .error (.nothing w)
          else
            match ofWord? w, rest with
            | some c, _ => .ok (c, rest)
            | none, v :: more =>
                match ofValue? now w v with
                | some r => do .ok (← r, more)
                | none => .error (unread w)
            | none, [] =>
                .error (if (ofValue? now w []).isSome then .missing w else unread w)
where
  /-- The fault of a word that cannot be read. -/
  unread (w : Text) : CriterionFault := if w.head? == some '-' then .unknown w else .misplaced w

end

/-- The criterion that words are. -/
def ofWords (now : Int) (words : List Text) : Except CriterionFault Criterion := do
  let (c, rest) ← listOf now (6 * words.length + 12) words
  match rest with
  | w :: _ => .error (.unknown w)
  | [] => .ok c

end Criterion

/-! ## Answers -/

/-- A file that is looked at. -/
structure Looked where
  names : List Text
  /-- Its path as it is shown, and the one from which it was come to. -/
  shown : Text
  start : Text
  depth : Nat
  facts : Facts

/-- The path from where the search began. -/
def Looked.inner (l : Looked) : Text :=
  let rest := l.shown.drop l.start.length
  if rest.head? == some '/' then rest.drop 1 else rest

/-- What has come of looking at files. -/
structure Findings where
  /-- The files for commands that take them all together. -/
  gathered : List (List Text × List Text) := []
  /-- The directory below which nothing is looked at. -/
  pruned : Option (List Text) := none
  isDone : Bool := false
  failed : Bool := false

/-- The findings with a file for a command. -/
def Findings.gather (f : Findings) (command : List Text) (file : Text) : Findings :=
  { f with gathered :=
      if f.gathered.any (·.1 == command) then
        f.gathered.map fun (w, files) => if w == command then (w, files ++ [file]) else (w, files)
      else f.gathered ++ [(command, [file])] }

/-- What a letter of a format stands for. -/
def Looked.field (l : Looked) (c : Char) : Text :=
  match c with
  | 'p' => l.shown
  | 'f' => lastName l.shown
  | 'h' => if l.shown.contains '/' then aboveName l.shown else ['.']
  | 'P' => l.inner
  | 'H' => l.start
  | 'd' => Text.ofNat l.depth
  | 's' => Text.ofNat l.facts.size
  | 'b' => Text.ofNat l.facts.blocks
  | 'k' => Text.ofNat (l.facts.blocks / 2)
  | 'n' => Text.ofNat l.facts.links
  | 'm' => Nat.toDigits 8 l.facts.mode
  | 'M' => l.facts.shownMode
  | 'y' => [if l.facts.kind == '-' then 'f' else l.facts.kind]
  | 'Y' => [if l.facts.kind == '-' then 'f' else l.facts.kind]
  | 'u' => userName
  | 'g' => userName
  | 'U' => ['0']
  | 'G' => ['0']
  | 'l' => []
  | 't' => (Date.ofMoment l.facts.time).formatted 128 "%a %b %e %H:%M:%S.%N0 %Y".toList
  | '%' => ['%']
  | c => ['%', c]

/-- What is known of a file in a format. -/
def Looked.formatted (l : Looked) : Nat → Text → Text
  | 0, _ => []
  | _, [] => []
  | fuel + 1, '%' :: 'T' :: c :: rest =>
      let format := if c == '@' then "%s.%N0".toList else if c == '+' then "%F+%T.%N0".toList
        else ['%', c]
      (Date.ofMoment l.facts.time).formatted 128 format ++ l.formatted fuel rest
  | fuel + 1, '%' :: rest =>
      let flags := rest.takeWhile "-0".toList.contains
      let digits := (rest.drop flags.length).takeWhile Char.isDigit
      match rest.drop (flags.length + digits.length) with
      | [] => '%' :: rest
      | c :: more =>
          let t := l.field c
          let blanks := List.replicate (inBase 10 digits - t.length) ' '
          (if flags.contains '-' then t ++ blanks else blanks ++ t) ++ l.formatted fuel more
  | fuel + 1, '\\' :: rest =>
      let (c, more) := readEscape rest
      c :: l.formatted fuel more
  | fuel + 1, c :: rest => c :: l.formatted fuel rest

/-- The answer to a criterion that only asks; none if it does something. -/
def Criterion.answer? (c : Criterion) (s : State) (l : Looked) : Option Bool :=
  let lowered := fun (folded : Bool) (t : Text) => if folded then t.map Char.toLower else t
  let isDirectory := l.facts.kind == 'd'
  match c with
  | .name folded p => some (matchesPattern p (lowered folded (lastName l.shown)))
  | .path folded p => some (matchesPattern p (lowered folded l.shown))
  | .kind letters => some (letters.contains (if l.facts.kind == '-' then 'f' else l.facts.kind))
  | .empty => some (if isDirectory then (s.system.tree.namesIn l.names).isEmpty
      else l.facts.size == 0)
  | .always value => some value
  | .newer t => some ((changed? s t).any (· < l.facts.time))
  | .later m => some (m < l.facts.time)
  | .age unit b =>
      let seconds := ((s.system.clock : Int) - l.facts.time) / 1000000
      some (b.holds (seconds.toNat / unit))
  | .size unit b => some (b.holds ((l.facts.size + unit - 1) / unit))
  | .links b => some (b.holds l.facts.links)
  | .bits how mode =>
      let common := Nat.land l.facts.mode mode
      some (match how with
        | .same => l.facts.mode == mode
        | .all => common == mode
        | .any => common != 0 || mode == 0)
  | .runnable => some (isDirectory || Nat.land l.facts.mode 0o111 != 0)
  | .sameFile t => some ((reached s t).any (s.system.namesOf l.names).contains)
  | _ => none

end Runbook.Shell
