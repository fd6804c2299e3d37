import Runbook.Shell.Filters

set_option autoImplicit false

/-! # Pairs of lines, columns and factors

Joining the lines of two ordered files that have a field in common, putting blanks in the place of
tabs and the other way round, and taking numbers apart.
-/

namespace Runbook.Shell

/-! ## Joining lines -/

/-- How lines are joined. -/
structure Joining where
  /-- Which field of each file is compared, counted from zero. -/
  field1 : Nat
  field2 : Nat
  separator : Option Char
  ignoresCase : Bool
  /-- What stands for a field that is not there. -/
  filler : Text
  /-- The fields that are shown, each with the number of its file; the common one has none. -/
  shown : Option (List (Option (Nat × Nat)))
  pairs : Bool
  /-- Whether lines of a file are shown that have no partner. -/
  alone1 : Bool
  alone2 : Bool
  /-- Whether order is asked for always, never, or only if a line has no partner. -/
  ordered : Option Bool

namespace Joining

/-- The fields of a line. -/
def fields (j : Joining) (l : Text) : List Text :=
  match j.separator with
  | some c => l.splitOn c
  | none => (l.map fun c => if c == '\t' then ' ' else c).splitOn ' ' |>.filter (!·.isEmpty)

/-- The field of a line that is compared. -/
def key (j : Joining) (first : Bool) (l : Text) : Text :=
  ((j.fields l)[if first then j.field1 else j.field2]?).getD []

/-- How two fields compare. -/
def compare (j : Joining) (a b : Text) : Ordering :=
  let fold := fun (t : Text) => if j.ignoresCase then t.map Char.toLower else t
  if fold a == fold b then .eq else if Text.before (fold a) (fold b) then .lt else .gt

/-- The line that two lines make, of which one may be missing. -/
def joined (j : Joining) (a b : Option Text) : Text :=
  let as := (a.map j.fields).getD []
  let bs := (b.map j.fields).getD []
  let filled := fun (t : Option Text) =>
    match t with
    | some (c :: t) => c :: t
    | _ => j.filler
  let common := match a with
    | some _ => as[j.field1]?
    | none => bs[j.field2]?
  let parts := match j.shown with
    | some places => places.map fun place =>
        match place with
        | none => filled common
        | some (1, n) => filled as[n]?
        | some (_, n) => filled bs[n]?
    | none => filled common :: (as.eraseIdx j.field1 ++ bs.eraseIdx j.field2).map (filled ∘ some)
  Text.join [j.separator.getD ' '] parts

/-- How far two lists of lines have been joined. -/
structure Progress where
  left1 : List Text
  left2 : List Text
  /-- The lines that are made, the last one first. -/
  made : List Text := []
  /-- Whether a line had no partner. -/
  alone : Bool := false

/-- One step: the lines in front that have the same field, or the smaller one by itself. -/
def step (j : Joining) (p : Progress) : Progress :=
  let single := fun (shows : Bool) (l : Text) => if shows then [l] else []
  match p.left1, p.left2 with
  | a :: as, b :: bs =>
      match j.compare (j.key true a) (j.key false b) with
      | .lt => { p with
          left1 := as
          made := single j.alone1 (j.joined (some a) none) ++ p.made
          alone := true }
      | .gt => { p with
          left2 := bs
          made := single j.alone2 (j.joined none (some b)) ++ p.made
          alone := true }
      | .eq =>
          let same1 := p.left1.takeWhile fun l => j.compare (j.key true l) (j.key false b) == .eq
          let same2 := p.left2.takeWhile fun l => j.compare (j.key true a) (j.key false l) == .eq
          let made := if j.pairs then
              same1.flatMap fun x => same2.map fun y => j.joined (some x) (some y)
            else []
          { p with
            left1 := p.left1.drop same1.length
            left2 := p.left2.drop same2.length
            made := made.reverse ++ p.made }
  | a :: as, [] => { p with
      left1 := as
      made := single j.alone1 (j.joined (some a) none) ++ p.made }
  | [], b :: bs => { p with
      left2 := bs
      made := single j.alone2 (j.joined none (some b)) ++ p.made }
  | [], [] => p

/-- All steps. -/
def steps (j : Joining) : Nat → Progress → Progress
  | 0, p => p
  | fuel + 1, p => if p.left1.isEmpty && p.left2.isEmpty then p else j.steps fuel (j.step p)

/-- The first line of a list that stands behind a greater one, with its number. -/
def misplaced? (j : Joining) (first : Bool) : Nat → List Text → Option (Nat × Text)
  | n, a :: b :: rest =>
      if j.compare (j.key first a) (j.key first b) == .gt then some (n + 1, b)
      else j.misplaced? first (n + 1) (b :: rest)
  | _, _ => none

end Joining

/-- Reads which fields are shown, or says what is wrong with them. -/
def readShown (t : Text) : Except Text (List (Option (Nat × Nat))) :=
  let words := (t.map fun c => if c == ',' || c == '\t' then ' ' else c).splitOn ' '
  (words.filter (!·.isEmpty)).mapM fun w =>
    match w with
    | ['0'] => .ok none
    | d :: '.' :: digits =>
        if d != '1' && d != '2' then
          .error ("invalid file number in field spec: ".toList ++ quoted w)
        else if digits.isEmpty || !digits.all Char.isDigit || inBase 10 digits == 0 then
          .error ("invalid field number: ".toList ++ quoted digits)
        else .ok (some (digitOf d, inBase 10 digits - 1))
    | w => .error ("invalid field specifier: ".toList ++ quoted w)

/-- Prints the lines that the lines of two files make which have a field in common. -/
def joinLines : List Text → Action Nat :=
  let kinds : OptionKinds := ⟨"iz", "12aejotv", [("ignore-case", 'i'), ("header", 'H'),
    ("check-order", 'C'), ("nocheck-order", 'N'), ("zero-terminated", 'z')]⟩
  withOptions "join" kinds 1 fun g => do
    let refuse := fun (message : Text) => do
      complainAs "join" message
      return 1
    let number? := fun (t : Text) =>
      if !t.isEmpty && t.all Char.isDigit && inBase 10 t != 0 then some (inBase 10 t - 1) else none
    let isFile := fun (t : Text) => t == ['1'] || t == ['2']
    if let some bad := (g.values 'a' ++ g.values 'v').find? (!isFile ·) then
      return ← refuse ("invalid field number: ".toList ++ quoted bad)
    let numbers := g.values '1' ++ g.values '2' ++ g.values 'j'
    if let some bad := numbers.find? fun t => (number? t).isNone then
      return ← refuse ("invalid field number: ".toList ++ quoted bad)
    let separator := g.value? 't'
    if let some (a :: b :: rest) := separator then
      if a :: b :: rest != ['\\', '0'] then
        return ← refuse ("multi-character tab ".toList ++ quoted (a :: b :: rest))
    match g.operands with
    | [] => misused "join" "missing operand".toList 1
    | [a] => misused "join" ("missing operand after ".toList ++ quoted a) 1
    | _ :: _ :: c :: _ => misused "join" ("extra operand ".toList ++ quoted c) 1
    | [a, b] =>
        let isAuto := g.value? 'o' == some "auto".toList
        match if isAuto then .ok [] else readShown (Text.join [','] (g.values 'o')) with
        | .error message => refuse message
        | .ok places =>
        if a == ['-'] && b == ['-'] then
          return ← refuse "both files cannot be standard input".toList
        match ← content a, ← content b with
        | .error reason, _ =>
            complainOf "join" "" (named a) reason
            return 1
        | _, .error reason =>
            complainOf "join" "" (named b) reason
            return 1
        | .ok s, .ok t =>
            let cut := fun (t : Text) =>
              if g.has 'z' then linesIn (t.map fun c => if c == '\x00' then '\n'
                else if c == '\n' then ' ' else c) else linesIn t
            let as := cut s
            let bs := cut t
            let field := fun (c : Char) => ((g.value? c <|> g.value? 'j').bind number?).getD 0
            let j : Joining := {
              field1 := field '1'
              field2 := field '2'
              separator := separator.bind fun t => match t with
                | [c] => some c
                | [] => some '\n'
                | _ => some '\x00'
              ignoresCase := g.has 'i'
              filler := (g.value? 'e').getD []
              shown := if (g.value? 'o').isSome && !isAuto then some places else none
              pairs := !g.has 'v'
              alone1 := (g.values 'a' ++ g.values 'v').contains ['1']
              alone2 := (g.values 'a' ++ g.values 'v').contains ['2']
              ordered := (g.last? "CN").map (· == 'C') }
            let widths := ((as.head?.map j.fields).getD [], (bs.head?.map j.fields).getD [])
            let j := if isAuto then
                { j with shown := some (none ::
                    ((List.range widths.1.length).eraseIdx j.field1).map (fun n => some (1, n)) ++
                    ((List.range widths.2.length).eraseIdx j.field2).map fun n => some (2, n)) }
              else j
            let head := if g.has 'H' && !(as.isEmpty && bs.isEmpty) then
                [j.joined (some (as.head?.getD [])) (some (bs.head?.getD []))]
              else []
            let skipped := if g.has 'H' then 1 else 0
            let as := as.drop skipped
            let bs := bs.drop skipped
            let p := j.steps (as.length + bs.length + 1) { left1 := as, left2 := bs }
            let made := head ++ p.made.reverse
            write (if g.has 'z' then made.flatMap (· ++ ['\x00']) else Text.terminated made)
            let looks := j.ordered == some true || (j.ordered == none && p.alone)
            let bad := if looks then
                ((j.misplaced? true (skipped + 1) as).map fun m => (a, m)).toList ++
                  ((j.misplaced? false (skipped + 1) bs).map fun m => (b, m)).toList
              else []
            let bad := if j.ordered == some true then bad.take 1 else bad
            for (file, n, l) in bad do
              complainAs "join" (file ++ ':' :: Text.ofNat n ++ ": is not sorted: ".toList ++ l)
            if bad.isEmpty then return 0
            if j.ordered != some true then
              complainAs "join" "input is not in sorted order".toList
            return 1

/-! ## Columns -/

/-- Where the next column begins that a tab leads to: behind the last one of a list single blanks
follow, and one number alone is the distance of all. -/
def nextStop (stops : List Nat) (column : Nat) : Nat :=
  match stops with
  | [] => (column / 8 + 1) * 8
  | [n] => (column / n + 1) * n
  | stops => (stops.find? (column < ·)).getD (column + 1)

/-- A line with blanks in the place of its tabs, or only of those in front. -/
def expanded (stops : List Nat) (onlyFirst : Bool) : Nat → Bool → Text → Text
  | _, _, [] => []
  | column, inFront, c :: rest =>
      if c == '\t' && (inFront || !onlyFirst) then
        let next := nextStop stops column
        List.replicate (next - column) ' ' ++ expanded stops onlyFirst next inFront rest
      else
        let column := if c == '\x08' then column - 1
          else if c == '\t' then nextStop stops column else column + 1
        c :: expanded stops onlyFirst column (inFront && c == ' ') rest

/-- A line with tabs in the place of its blanks, or only of those in front. `first` is the column
where the blanks begin that have been passed over. -/
def contracted (stops : List Nat) (all : Bool) : Nat → Nat → Bool → Text → Text
  | first, column, _, [] => List.replicate (column - first) ' '
  | first, column, inFront, c :: rest =>
      let isEnd := 1 < stops.length && (stops.getLast?).any (· ≤ column)
      if (inFront || all) && !isEnd && c == '\t' then
        let next := nextStop stops column
        '\t' :: contracted stops all next next inFront rest
      else if (inFront || all) && !isEnd && c == ' ' then
        let column := column + 1
        -- A single blank before a column stays one.
        if nextStop stops (column - 1) == column && (1 < column - first ||
            (rest.head?).any fun d => d == ' ' || d == '\t') then
          '\t' :: contracted stops all column column inFront rest
        else contracted stops all first column inFront rest
      else
        let next := if c == '\x08' then column - 1 else column + 1
        List.replicate (column - first) ' ' ++ c :: contracted stops all next next false rest

/-- Reads the columns that a list of numbers names, or says what is wrong with them. -/
def readStops (t : Text) : Except Text (List Nat) := do
  let words := ((t.map fun c => if c == ' ' then ',' else c).splitOn ',').filter (!·.isEmpty)
  let bad := words.find? fun w => !w.all Char.isDigit
  if let some w := bad then
    throw ("tab size contains invalid character(s): ".toList ++ quoted (w.dropWhile Char.isDigit))
  let ns := words.map (inBase 10)
  if ns.contains 0 then throw "tab size cannot be 0".toList
  if (ns.zip (ns.drop 1)).any fun (a, b) => b ≤ a then
    throw "tab sizes must be ascending".toList
  return ns

/-- The words of a utility with numbers behind a dash made the value of an option. -/
def withStops (words : List Text) : List Text :=
  words.map fun w => match w with
    | '-' :: c :: rest => if c.isDigit then '-' :: 't' :: c :: rest else w
    | w => w

/-- Prints lines with blanks in the place of tabs. -/
def expand (words : List Text) : Action Nat :=
  withOptions "expand" ⟨"i", "t", [("initial", 'i'), ("tabs", 't')]⟩ 1 (fun g => do
    match readStops (Text.join [','] (g.values 't')) with
    | .error message =>
        complainAs "expand" message
        return 1
    | .ok stops =>
        let shown := fun (_ : Unit) (ls : List Text) => do
          write (ls.flatMap (expanded stops (g.has 'i') 0 true))
        let (_, good) ← overInputs "expand" "" shown g.inputs ()
        return if good then 0 else 1) (withStops words)

/-- Prints lines with tabs in the place of blanks. -/
def unexpand (words : List Text) : Action Nat :=
  let kinds : OptionKinds := ⟨"a", "t", [("all", 'a'), ("tabs", 't'), ("first-only", 'F')]⟩
  withOptions "unexpand" kinds 1 (fun g => do
    match readStops (Text.join [','] (g.values 't')) with
    | .error message =>
        complainAs "unexpand" message
        return 1
    | .ok stops =>
        let all := (g.has 'a' || (g.value? 't').isSome) && !g.has 'F'
        let shown := fun (_ : Unit) (ls : List Text) => do
          write (ls.flatMap fun l =>
            contracted stops all 0 0 true (withoutLineEnd l) ++
              if l.getLast? == some '\n' then ['\n'] else [])
        let (_, good) ← overInputs "unexpand" "" shown g.inputs ()
        return if good then 0 else 1) (withStops words)

/-! ## Numbers -/

/-- The prime factors of a number that are not below another one. -/
def factorsFrom : Nat → Nat → Nat → List Nat
  | 0, _, n => [n]
  | fuel + 1, d, n =>
      if n < 2 then []
      else if n < d * d then [n]
      else if n % d == 0 then d :: factorsFrom fuel d (n / d)
      else factorsFrom fuel (if d == 2 then 3 else d + 2) n

/-- How far factors of numbers are looked for. -/
def factorBound : Nat := 8000000

/-- Prints the prime factors of numbers. -/
def factor : List Text → Action Nat :=
  withOptions "factor" ⟨"h", "", [("exponents", 'h')]⟩ 1 fun g => do
    let words ← if g.operands.isEmpty then do
        match ← takeAll 0 with
        | .ok t => pure (((t.map fun c => if c == '\n' || c == '\t' then ' ' else c).splitOn
            ' ').filter (!·.isEmpty))
        | .error _ => pure []
      else pure g.operands
    eachOf words 1 fun w => do
      let digits := if w.head? == some '+' then w.drop 1 else w
      if digits.isEmpty || !digits.all Char.isDigit then
        complainAs "factor" (quoted w ++ " is not a valid positive integer".toList)
        return false
      let n := inBase 10 digits
      let found := factorsFrom factorBound 2 n
      let parts := if g.has 'h' then
          found.eraseDups.map fun p =>
            let count := found.count p
            Text.ofNat p ++ if count == 1 then [] else '^' :: Text.ofNat count
        else found.map Text.ofNat
      writeLine (Text.ofNat n ++ ':' :: parts.flatMap (' ' :: ·))
      return true

end Runbook.Shell
