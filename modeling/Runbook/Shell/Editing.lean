import Runbook.Shell.Files
import Runbook.Shell.Filters
import Runbook.Shell.Regular

set_option autoImplicit false

/-! # Editing lines by a script

A script is a list of commands, each of which may be limited to some lines. Every line of the
input is taken into the *pattern space*, the commands are applied to it in turn, and what they
leave is printed. A second space holds text from line to line.
-/

namespace Runbook.Shell

namespace Script

/-! ## Scripts -/

/-- A regular expression of a script; none is the one that was used last. -/
abbrev Sought := Option (Regular × Bool)

/-- What selects a line. -/
inductive Address where
  | line (n : Nat)
  | each (first step : Nat)
  | last
  | sought (r : Sought)

/-- What ends a range of lines. -/
inductive RangeEnd where
  | address (a : Address)
  /-- So many lines later. -/
  | later (n : Nat)
  /-- At the next line whose number is a multiple. -/
  | multiple (n : Nat)

/-- How the case of letters is changed. -/
inductive Casing where
  | keep
  | upper
  | lower
  deriving DecidableEq, Repr

/-- A piece of a replacement. -/
inductive Piece where
  | text (t : Text)
  /-- What a group has matched, or the whole match as number zero. -/
  | group (n : Nat)
  | casing (c : Casing)
  /-- The case of the next letter alone. -/
  | next (c : Casing)

/-- What a command does. -/
inductive Deed where
  /-- The commands up to the one of this number, behind the end, are a block. -/
  | block (finish : Nat)
  | blockEnd
  | label
  | branch (wanted : Option Bool) (target : Option Text) (place : Nat)
  | substitute (r : Sought) (groups : Nat) (replacement : List Piece) (all printed : Bool)
      (number : Nat) (file : Option Text)
  | transliterate (pairs : List (Char × Char))
  | insert (t : Text)
  | append (t : Text)
  | change (t : Text)
  | quit (printing : Bool) (status : Nat)
  | read (file : Text)
  /-- The next line of a file is appended. -/
  | readLine (file : Text)
  | write (file : Text)
  /-- The first line of the pattern space is written to a file. -/
  | writeFirst (file : Text)
  /-- A command that is a letter alone. -/
  | letter (c : Char)

/-- A command: the lines it is limited to, and what it does. -/
structure Order where
  first : Option Address
  second : Option RangeEnd
  negated : Bool
  deed : Deed

/-- What is left of a script, and how much of it has been read. -/
structure Rest where
  text : Text
  read : Nat := 0

/-- A step that reads from a script. A fault is a message with the place where it was found. -/
abbrev Reading (α : Type) := StateT Rest (Except (Nat × Text)) α

/-- Refuses the script. -/
def refuse {α : Type} (message : String) : Reading α := do
  throw ((← get).read, message.toList)

/-- The next character. -/
def peek : Reading (Option Char) := do return (← get).text.head?

/-- Passes over `n` characters. -/
def skip (n : Nat) : Reading Unit := modify fun s => ⟨s.text.drop n, s.read + n⟩

/-- Takes characters as long as they are of a kind. -/
def takeAll (isOne : Char → Bool) : Reading Text := do
  let t := (← get).text.takeWhile isOne
  skip t.length
  return t

/-- Passes over blanks, and with `lines` over line ends and semicolons. -/
def skipBlanks (lines : Bool) : Reading Unit := do
  let _ ← takeAll fun c => c == ' ' || c == '\t' || (lines && (c == '\n' || c == ';'))

/-- The text up to the next `mark` that no backslash stands before. A backslash before the mark is
dropped, and one before an `n` makes a line end of it. -/
def upTo (mark : Char) (expression : Bool) : Text → Option (Text × Nat)
  | [] => none
  | '\\' :: c :: rest =>
      (upTo mark expression rest).map fun (t, n) =>
        let kept := if c == mark then [c]
          else if c == 'n' && expression then ['\n']
          else ['\\', c]
        (kept ++ t, n + 2)
  | c :: rest =>
      if c == mark then some ([], 1)
      else (upTo mark expression rest).map fun (t, n) => (c :: t, n + 1)

/-- Reads a regular expression with its letters behind it. -/
def sought (extended : Bool) (t : Text) (folded : Bool) : Reading (Sought × Nat) :=
  if t.isEmpty then return (none, 0)
  else
    match Regular.withGroups { extended } t with
    | .ok (r, groups) => return (some (r, folded), groups)
    | .error f => refuse f.message

/-- Reads the text between marks. -/
def between (mark : Char) (expression : Bool) (message : String) : Reading Text := do
  match upTo mark expression (← get).text with
  | some (t, n) =>
      skip n
      return t
  | none =>
      skip (← get).text.length
      refuse message

/-- Reads a number. -/
def number : Reading Nat := do return inBase 10 (← takeAll Char.isDigit)

/-- Reads an address if there is one. -/
def address? (extended : Bool) : Reading (Option Address) := do
  let expression := fun (mark : Char) => do
    let t ← between mark true "unterminated address regex"
    let folded := (← peek) == some 'I'
    if folded then skip 1
    return some (Address.sought (← sought extended t folded).1)
  match ← peek with
  | some '$' =>
      skip 1
      return some .last
  | some '/' =>
      skip 1
      expression '/'
  | some '\\' =>
      skip 1
      match ← peek with
      | some c =>
          skip 1
          expression c
      | none => refuse "unterminated address regex"
  | some c =>
      if c.isDigit then
        let n ← number
        if (← peek) == some '~' then
          skip 1
          return some (.each n (← number))
        return some (.line n)
      return none
  | none => return none

/-- Reads the end of a range. -/
def rangeEnd (extended : Bool) : Reading RangeEnd := do
  match ← peek with
  | some '+' =>
      skip 1
      return .later (← number)
  | some '~' =>
      skip 1
      return .multiple (← number)
  | _ =>
      match ← address? extended with
      | some a => return .address a
      | none => refuse "unexpected \x60,'"

/-- Reads a replacement. -/
def pieces : Text → List Piece
  | [] => []
  | '&' :: rest => .group 0 :: pieces rest
  | '\\' :: c :: rest =>
      let more := pieces rest
      if c.isDigit then .group (c.toNat - '0'.toNat) :: more
      else
        match c with
        | 'n' => .text ['\n'] :: more
        | 't' => .text ['\t'] :: more
        | 'U' => .casing .upper :: more
        | 'L' => .casing .lower :: more
        | 'E' => .casing .keep :: more
        | 'u' => .next .upper :: more
        | 'l' => .next .lower :: more
        | c => .text [c] :: more
  | c :: rest => .text [c] :: pieces rest

/-- Reads the text of a command up to the end of the line. -/
def argumentText : Text → Text × Nat
  | [] => ([], 0)
  | '\n' :: _ => ([], 0)
  | '\\' :: c :: rest =>
      let (t, n) := argumentText rest
      (c :: t, n + 2)
  | c :: rest =>
      let (t, n) := argumentText rest
      (c :: t, n + 1)

/-- Reads the flags of a substitution: whether all are replaced, the result is printed, case is
ignored, which match is meant, and the file that the result is written to. -/
def flags : Nat → Bool × Bool × Bool × Nat × Option Text →
    Reading (Bool × Bool × Bool × Nat × Option Text)
  | 0, done => return done
  | fuel + 1, (all, printed, folded, n, file) => do
      match ← peek with
      | some 'g' => skip 1; flags fuel (true, printed, folded, n, file)
      | some 'p' => skip 1; flags fuel (all, true, folded, n, file)
      | some 'i' => skip 1; flags fuel (all, printed, true, n, file)
      | some 'I' => skip 1; flags fuel (all, printed, true, n, file)
      | some 'w' =>
          skip 1
          skipBlanks false
          let name ← takeAll (· != '\n')
          return (all, printed, folded, n, some name)
      | some c =>
          if c.isDigit then
            let n ← number
            if n == 0 then refuse "number option to \x60s' command may not be zero"
            flags fuel (all, printed, folded, n, file)
          else if ['\n', ';', ' ', '\t', '\x7d', '#'].contains c then
            return (all, printed, folded, n, file)
          else
            skip 1
            refuse "unknown option to \x60s'"
      | none => return (all, printed, folded, n, file)

/-- Reads what a command does, behind its letter. -/
def deed (extended : Bool) (c : Char) : Reading Deed := do
  let text : Reading Text := do
    skipBlanks false
    if (← peek) == some '\\' then
      skip 1
      skipBlanks false
      if (← peek) == some '\n' then skip 1
    else if (← peek).isNone then
      refuse "expected \\ after \x60a', \x60c' or \x60i'"
    let (t, n) := argumentText (← get).text
    skip n
    return t ++ ['\n']
  let name : Reading Text := do
    skipBlanks false
    let t ← takeAll (· != '\n')
    if t.isEmpty then refuse "missing filename in r/R/w/W commands"
    return t
  let labelName : Reading Text := do
    skipBlanks false
    let t ← takeAll fun c => c != '\n' && c != ';'
    return (t.reverse.dropWhile fun c => c == ' ' || c == '\t').reverse
  let status : Reading Nat := do
    skipBlanks false
    number
  match c with
  | '\x7b' => return .block 0
  | '\x7d' => return .blockEnd
  | ':' =>
      let _ ← labelName
      return .label
  | 'b' =>
      let t ← labelName
      return .branch none (if t.isEmpty then none else some t) 0
  | 't' =>
      let t ← labelName
      return .branch (some true) (if t.isEmpty then none else some t) 0
  | 'T' =>
      let t ← labelName
      return .branch (some false) (if t.isEmpty then none else some t) 0
  | 'a' => return .append (← text)
  | 'i' => return .insert (← text)
  | 'c' => return .change (← text)
  | 'q' => return .quit true (← status)
  | 'Q' => return .quit false (← status)
  | 'r' => return .read (← name)
  | 'R' => return .readLine (← name)
  | 'w' => return .write (← name)
  | 'W' => return .writeFirst (← name)
  | 's' =>
      match ← peek with
      | none => refuse "unterminated \x60s' command"
      | some mark =>
          skip 1
          let message := "unterminated \x60s' command"
          let pattern ← between mark true message
          let replacement ← between mark false message
          let (all, printed, folded, n, file) ← flags 16 (false, false, false, 1, none)
          let (r, groups) ← sought extended pattern folded
          let ps := pieces replacement
          for p in ps do
            match p with
            | .group k =>
                if groups < k && r.isSome then
                  refuse ("invalid reference \\" ++ toString k ++ " on \x60s' command's RHS")
            | _ => pure ()
          return .substitute r groups ps all printed n file
  | 'y' =>
      match ← peek with
      | none => refuse "unterminated \x60y' command"
      | some mark =>
          skip 1
          let message := "unterminated \x60y' command"
          let plain := fun (t : Text) => (pieces t).flatMap fun p =>
            match p with
            | .text t => t
            | .group 0 => ['&']
            | _ => []
          let a := plain (← between mark true message)
          let b := plain (← between mark true message)
          if a.length != b.length then
            refuse "strings for \x60y' command are different lengths"
          return .transliterate (a.zip b)
  | c =>
      if "=dDgGhHlnNpPxzF".toList.contains c then return .letter c
      else refuse ("unknown command: \x60" ++ String.ofList [c] ++ "'")

/-- Reads a label, which is the command behind a colon. -/
def labelOf (t : Text) : Text :=
  let t := t.dropWhile fun c => c == ' ' || c == '\t'
  ((t.takeWhile fun c => c != '\n' && c != ';').reverse.dropWhile
    fun c => c == ' ' || c == '\t').reverse

/-- Reads commands up to the end: the commands, the labels with their places, and the places of the
blocks that are open. -/
def orders (extended : Bool) : Nat → List Order → List (Text × Nat) → List Nat →
    Reading (List Order × List (Text × Nat))
  | 0, done, labels, _ => return (done, labels)
  | fuel + 1, done, labels, opened => do
      skipBlanks true
      let first ← address? extended
      let second ← if first.isSome then do
          skipBlanks false
          if (← peek) == some ',' then
            skip 1
            skipBlanks false
            pure (some (← rangeEnd extended))
          else pure none
        else pure none
      skipBlanks false
      let negated := (← peek) == some '!'
      if negated then
        let _ ← takeAll fun c => c == '!' || c == ' ' || c == '\t'
      match ← peek with
      | none =>
          if first.isSome then refuse "missing command"
          if !opened.isEmpty then throw (0, "unmatched \x60\x7b'".toList)
          return (done, labels)
      | some '#' =>
          if first.isSome then refuse "comments don't accept any addresses"
          let _ ← takeAll (· != '\n')
          orders extended fuel done labels opened
      | some c =>
          skip 1
          let here := (← get).text
          let d ← deed extended c
          let place := done.length
          let labels := if c == ':' then labels ++ [(labelOf here, place)] else labels
          let opens := c == '\x7b'
          if !opens then
            skipBlanks false
            match ← peek with
            | none => pure ()
            | some e =>
                if !(";\n\x7d#".toList.contains e) then
                  skip 1
                  refuse "extra characters after command"
          let done := done ++ [⟨first, second, negated, d⟩]
          if opens then orders extended fuel done labels (place :: opened)
          else if c == '\x7d' then
            match opened with
            | [] => refuse "unexpected \x60\x7d'"
            | start :: outer =>
                let done := done.modify start fun o => { o with deed := .block place }
                orders extended fuel done labels outer
          else orders extended fuel done labels opened

/-- The commands of a script with the places that they branch to. -/
def ofText (extended : Bool) (t : Text) : Except (Nat × Text) (List Order) := do
  let ((os, labels), _) ← (orders extended (t.length + 2) [] [] []).run ⟨t, 0⟩
  os.mapM fun o =>
    match o.deed with
    | .branch wanted (some name) _ =>
        match labels.find? (·.1 == name) with
        | some (_, place) => .ok { o with deed := .branch wanted (some name) place }
        | none => .error (0, "can't find label for jump to \x60".toList ++ name ++ ['\''])
    | .branch wanted none _ => .ok { o with deed := .branch wanted none os.length }
    | _ => .ok o

/-! ## Running -/

/-- What a script works on. -/
structure Editor where
  space : Text := []
  held : Text := []
  /-- Whether the line in the pattern space ended with a line end. -/
  ended : Bool := true
  line : Nat := 0
  /-- The lines that have been read, with their ends. -/
  rest : List Text := []
  /-- Whether there may be lines behind those. -/
  more : Bool := true
  /-- What ends a line. -/
  mark : Char := '\n'
  /-- The name of the input. -/
  name : Text := ['-']
  shown : List Text := []
  /-- Whether a line end is still to be printed. -/
  owed : Bool := false
  queue : List Text := []
  replaced : Bool := false
  last : Sought := none
  /-- The ranges that are open, with the line that ends each, if it is known. -/
  ranges : List (Nat × Option Nat) := []
  /-- What is left of the files that lines are read from. -/
  sources : List (Text × List Text) := []
  /-- What has been written to files. -/
  files : List (Text × Text) := []

namespace Editor

/-- Prints a text. -/
def put (e : Editor) (t : Text) (ended : Bool) : Editor :=
  let t := if ended then t ++ [e.mark] else t
  { e with shown := t :: (if e.owed then [e.mark] :: e.shown else e.shown), owed := !ended }

/-- Prints the pattern space. -/
def print (e : Editor) : Editor := e.put e.space e.ended

/-- Prints a text that has its own line end. -/
def putFull (e : Editor) (t : Text) : Editor :=
  { e with shown := t :: (if e.owed then [e.mark] :: e.shown else e.shown), owed := false }

/-- Prints what commands have put off to the end of the cycle. -/
def flush (e : Editor) : Editor :=
  { e.queue.foldl putFull e with queue := [] }

/-- Whether the line in the pattern space is the last one, as far as is known. -/
def isLast (e : Editor) : Bool := e.rest.isEmpty

/-- Takes the next line. -/
def take (e : Editor) (joined : Bool) : Editor :=
  match e.rest with
  | [] => e
  | l :: rest =>
      let ended := l.getLast? == some e.mark
      let t := if ended then l.dropLast else l
      { e with
        space := if joined then e.space ++ e.mark :: t else t
        ended
        line := e.line + 1
        rest }

/-- Adds to what is written to a file. -/
def addTo (e : Editor) (file t : Text) : Editor :=
  if file == "/dev/stdout".toList then e.put t true
  else
    match e.files.find? (·.1 == file) with
    | some _ => { e with files := e.files.map fun f =>
        if f.1 == file then (f.1, f.2 ++ t ++ [e.mark]) else f }
    | none => { e with files := e.files ++ [(file, t ++ [e.mark])] }

/-- Takes the next line of a file, if there is one, to be printed at the end of the cycle. -/
def takeFrom (e : Editor) (file : Text) : Editor :=
  match e.sources.find? (·.1 == file) with
  | some (_, l :: rest) => { e with
      queue := e.queue ++ [l ++ [e.mark]]
      sources := e.sources.map fun f => if f.1 == file then (file, rest) else f }
  | _ => e

/-- The expression that is meant, and the editor that remembers it. -/
def meant (e : Editor) (r : Sought) : Option (Regular × Bool) × Editor :=
  match r with
  | some r => (some r, { e with last := some r })
  | none => (e.last, e)

/-- Whether the pattern space holds a match. -/
def holds (e : Editor) (r : Sought) : Bool × Editor :=
  match e.meant r with
  | (some (x, folded), e) =>
      ((Regular.find? x ⟨e.space.toArray, folded⟩ 0 fun _ => true).isSome, e)
  | (none, e) => (false, e)

/-- Whether an address selects the line. -/
def selects (e : Editor) (a : Address) : Bool × Editor :=
  match a with
  | .line n => (e.line == n, e)
  | .each first step =>
      (if step == 0 then e.line == first else first ≤ e.line && (e.line - first) % step == 0, e)
  | .last => (e.isLast, e)
  | .sought r => e.holds r

/-- Whether the command of a place is applied to the line. -/
def applies (e : Editor) (place : Nat) (o : Order) : Bool × Editor :=
  let close := fun (e : Editor) => { e with ranges := e.ranges.filter (·.1 != place) }
  let (r, e) := match o.first, o.second with
    | none, _ => (true, e)
    | some a, none => e.selects a
    | some a, some z =>
        match e.ranges.find? (·.1 == place) with
        | some (_, some n) =>
            if e.line < n then (true, e)
            else (e.line == n, close e)
        | some (_, none) =>
            match z with
            | .address z =>
                let (r, e) := e.selects z
                (true, if r then close e else e)
            | _ => (true, e)
        | none =>
            let (starts, e) := match a with
              | .line 0 => (e.line == 1, e)
              | a => e.selects a
            if !starts then (false, e)
            else
              let opened := fun (n : Option Nat) => { e with ranges := (place, n) :: e.ranges }
              let upTo := fun (n : Nat) => if n ≤ e.line then e else opened (some n)
              match z with
              | .address (.line n) => (true, upTo n)
              | .later n => (true, upTo (e.line + n))
              | .multiple n =>
                  (true, if n == 0 then e else upTo ((e.line + n - 1) / n * n))
              | .address z =>
                  match a with
                  | .line 0 =>
                      let (r, e) := e.selects z
                      (true, if r then e else { e with ranges := (place, none) :: e.ranges })
                  | _ => (true, opened none)
  (r != o.negated, e)

/-- The text of a replacement. `casing` holds until the next piece that changes it, `next` for one
letter. -/
def replacement (m : Regular.Match) (s : Regular.Subject) (casing : Casing) (next : Casing) :
    List Piece → Text
  | [] => []
  | .casing c :: rest => replacement m s c .keep rest
  | .next c :: rest => replacement m s casing c rest
  | .text t :: rest => add t rest
  | .group n :: rest =>
      add (if n == 0 then s.between m.first m.last else (m.group? s n).getD []) rest
where
  /-- A letter in a case. -/
  change (c : Casing) (x : Char) : Char :=
    match c with
    | .keep => x
    | .upper => x.toUpper
    | .lower => x.toLower
  /-- A text in the current case, and what follows it. -/
  add (t : Text) (rest : List Piece) : Text :=
    match t with
    | [] => replacement m s casing next rest
    | x :: more =>
        (change (if next == .keep then casing else next) x) :: more.map (change casing) ++
          replacement m s casing .keep rest

/-- Replaces matches from a place on: the text, and whether there was one. `number` is the number
of the first match that is replaced. -/
def replaceFrom (r : Regular) (s : Regular.Subject) (ps : List Piece) (all : Bool) (number : Nat) :
    Nat → Nat → Option Nat → Nat → Text × Bool
  | 0, place, _, _ => (s.between place s.bytes.size, false)
  | fuel + 1, place, lastEnd, count =>
      match Regular.find? r s place fun _ => true with
      | none => (s.between place s.bytes.size, false)
      | some m =>
          let before := s.between place m.first
          if m.first == m.last && lastEnd == some m.first then
            -- An empty match directly behind another one does not count.
            let (t, found) := replaceFrom r s ps all number fuel (m.first + 1) none count
            (before ++ s.between m.first (m.first + 1) ++ t, found)
          else
            let count := count + 1
            let here := if number ≤ count then replacement m s .keep .keep ps
              else s.between m.first m.last
            if number ≤ count && !all then
              (before ++ here ++ s.between m.last s.bytes.size, true)
            else
              let step := if m.first == m.last then s.between m.last (m.last + 1) else []
              let next := if m.first == m.last then m.last + 1 else m.last
              if s.bytes.size < next then (before ++ here, number ≤ count)
              else
                let (t, found) := replaceFrom r s ps all number fuel next
                  (if m.first == m.last then none else some m.last) count
                (before ++ here ++ step ++ t, found || number ≤ count)

/-- The pattern space as it is shown unambiguously. -/
def shownPlainly (t : Text) : Text :=
  t.flatMap (fun c =>
    match c with
    | '\\' => ['\\', '\\']
    | c => (escapedByte? c).getD [c]) ++ ['$']

end Editor

/-- How the turn of a line ends. -/
inductive Turn where
  /-- The pattern space is printed, unless told not to, and the next line is taken. -/
  | finished
  | deleted
  /-- The script begins again with what is left. -/
  | restarted
  | quit (printing : Bool) (status : Nat)
  /-- It has to be known whether there is another line. -/
  | starved

/-- Whether an address asks for the last line. -/
def Address.isLast : Address → Bool
  | last => true
  | _ => false

/-- Whether a command asks whether there is another line. -/
def Order.looksAhead (o : Order) : Bool :=
  let second := match o.second with
    | some (.address a) => a.isLast
    | _ => false
  let byDeed := match o.deed with
    | .letter c => c == 'n' || c == 'N'
    | _ => false
  o.first.any Address.isLast || second || byDeed

/-- Applies the commands from a place on to the pattern space. -/
def runFrom (quiet : Bool) (os : Array Order) :
    Nat → Nat → Editor → Editor × Turn
  | 0, _, e => (e, .quit true 1)
  | fuel + 1, place, e =>
      match os[place]? with
      | none => (e, .finished)
      | some o =>
          let (applied, e) := e.applies place o
          let go := fun (e : Editor) => runFrom quiet os fuel (place + 1) e
          if e.rest.isEmpty && e.more && o.looksAhead then (e, .starved)
          else if !applied then
            match o.deed with
            | .block finish => runFrom quiet os fuel (finish + 1) e
            | _ => go e
          else
            match o.deed with
            | .block _ => go e
            | .blockEnd => go e
            | .label => go e
            | .branch wanted _ target =>
                match wanted with
                | none => runFrom quiet os fuel target e
                | some w =>
                    let jumps := e.replaced == w
                    let e := if w then { e with replaced := if jumps then false else e.replaced }
                      else { e with replaced := false }
                    if jumps then runFrom quiet os fuel target e else go e
            | .substitute r _ ps all printed n file =>
                match e.meant r with
                | (none, e) => go e
                | (some (x, folded), e) =>
                    let s : Regular.Subject := ⟨e.space.toArray, folded⟩
                    let (t, found) := Editor.replaceFrom x s ps all n (s.bytes.size + 2) 0 none 0
                    if !found then go e
                    else
                      let e := { e with space := t, replaced := true }
                      let e := if printed then e.print else e
                      go (match file with
                        | some f => e.addTo f e.space
                        | none => e)
            | .transliterate pairs =>
                go { e with space := e.space.map fun c =>
                  ((pairs.find? (·.1 == c)).map (·.2)).getD c }
            | .insert t => go (e.putFull t)
            | .append t => go { e with queue := e.queue ++ [t] }
            | .change t =>
                let inside := o.second.isSome && !o.negated && e.ranges.any (·.1 == place)
                (if inside then e else e.putFull t, .deleted)
            | .quit printing status => (e, .quit printing status)
            | .read f => go { e with queue := e.queue ++
                ((e.sources.find? (·.1 == '<' :: f)).map (·.2)).getD [] }
            | .readLine f => go (e.takeFrom f)
            | .write f => go (e.addTo f e.space)
            | .writeFirst f => go (e.addTo f (Text.cutAt e.mark e.space).1)
            | .letter c =>
                let printed := if quiet then e else e.print
                match c with
                | '=' => go (e.putFull (Text.ofNat e.line ++ ['\n']))
                | 'd' => (e, .deleted)
                | 'D' =>
                    match Text.cutAt e.mark e.space with
                    | (_, none) => (e, .deleted)
                    | (_, some rest) => ({ e with space := rest }, .restarted)
                | 'g' => go { e with space := e.held }
                | 'G' => go { e with space := e.space ++ e.mark :: e.held }
                | 'h' => go { e with held := e.space }
                | 'H' => go { e with held := e.held ++ e.mark :: e.space }
                | 'x' => go { e with space := e.held, held := e.space }
                | 'l' => go (e.putFull (Editor.shownPlainly e.space ++ ['\n']))
                | 'n' =>
                    if e.isLast then (e, .quit true 0)
                    else go (printed.flush.take false)
                | 'N' =>
                    if e.isLast then (e, .quit true 0)
                    else go (e.flush.take true)
                | 'p' => go e.print
                | 'P' => go (e.put (Text.cutAt e.mark e.space).1 true)
                | 'z' => go { e with space := [] }
                | _ => go (e.putFull (e.name ++ ['\n']))

/-- How far a script has come with the lines that have been read. -/
inductive Progress where
  | done
  | quit (status : Nat)
  /-- More lines are needed; `fresh` says whether the next cycle begins with a new line. -/
  | starved (fresh : Bool)

/-- Applies a script to line after line. A cycle that needs more lines is begun again with them. -/
def runLines (quiet : Bool) (os : Array Order) : Nat → Bool → Editor → Editor × Progress
  | 0, _, e => (e, .quit 1)
  | fuel + 1, fresh, e =>
      if fresh && e.rest.isEmpty then (e, if e.more then .starved true else .done)
      else
        let before := e
        let e := if fresh then { e.take false with replaced := false } else e
        let (e, turn) := runFrom quiet os 100000 0 e
        match turn with
        | .finished => runLines quiet os fuel true (if quiet then e else e.print).flush
        | .deleted => runLines quiet os fuel true e.flush
        | .restarted => runLines quiet os fuel false e.flush
        | .quit printing status =>
            ((if quiet || !printing then e else e.print).flush, .quit status)
        | .starved => (before, .starved fresh)

/-- The files that a script reads. -/
def readFiles (os : List Order) : List (Bool × Text) :=
  os.filterMap fun o =>
    match o.deed with
    | .read f => some (true, f)
    | .readLine f => some (false, f)
    | _ => none

/-- The files that a script writes, which are made empty at first. -/
def writtenFiles (os : List Order) : List Text :=
  os.filterMap fun o =>
    match o.deed with
    | .write f => some f
    | .writeFirst f => some f
    | .substitute _ _ _ _ _ _ f => f
    | _ => none

end Script

/-! ## Input -/

/-- What is still to be edited. -/
structure Feed where
  /-- The operands that have not been opened. -/
  operands : List Text
  /-- The operand that is being read, with its stream. -/
  current : Option (Text × Nat) := none
  /-- Whether all of it has been read. -/
  isRead : Bool := false
  /-- The beginning of a line. -/
  begun : Text := []
  /-- How many operands have been opened. -/
  opened : Nat := 0
  status : Nat := 0
  /-- Whether nothing can be read any more after an error. -/
  failed : Bool := false

namespace Feed

/-- Whether there may be more lines. -/
def hasMore (f : Feed) : Bool := !f.failed && (f.current.isSome || !f.operands.isEmpty)

/-- The lines with their ends that come next, none at the end. -/
def next (mark : Char) : Nat → Feed → Action (Feed × List Text)
  | 0, f => return (f, [])
  | fuel + 1, f => do
      match f.current, f.operands with
      | none, [] => return (f, [])
      | none, t :: rest =>
          match ← openOperand t with
          | .ok stream =>
              next mark fuel
                { f with operands := rest, current := some (t, stream), opened := f.opened + 1 }
          | .error reason =>
              complainAs "sed" ("can't read ".toList ++ t ++ ": ".toList ++ reason.toList)
              next mark fuel { f with operands := rest, status := 2 }
      | some (t, stream), _ =>
          match ← if f.isRead then pure (.ok []) else takePiece stream none with
          | .error reason =>
              closeOperand stream
              complainAs "sed" ("read error on ".toList ++ t ++ ": ".toList ++ reason.toList)
              return ({ f with current := none, status := 4, failed := true }, [])
          | .ok [] =>
              closeOperand stream
              let f := { f with current := none, isRead := false }
              if f.begun.isEmpty then next mark fuel f
              else return ({ f with begun := [] }, [f.begun])
          | .ok piece =>
              let whole ← comesWhole stream
              let swapped := fun (t : Text) =>
                if mark == '\n' then t
                else t.map fun c => if c == mark then '\n' else if c == '\n' then mark else c
              let text := swapped (f.begun ++ piece)
              let (ls, begun) := if whole then (fullLines text, []) else endedLines text
              let f := { f with begun := swapped begun, isRead := whole }
              if ls.isEmpty then next mark fuel f else return (f, ls.map swapped)

end Feed

/-- Runs a script on what comes from operands. What it prints is written at once unless it is kept.
Gives the editor and the feed as they are at the end, and the status with which the script has
ended itself. -/
def editFeed (quiet keeping : Bool) (os : Array Script.Order) :
    Nat → Bool → Script.Editor → Feed → Action (Script.Editor × Feed × Option Nat)
  | 0, _, e, f => return (e, f, some 1)
  | fuel + 1, fresh, e, f => do
      let (e, progress) := Script.runLines quiet os 1000000 fresh e
      let e ← if keeping then pure e else do
        write e.shown.reverse.flatten
        pure { e with shown := [] }
      if (← self).broken.isSome then return (e, f, some 4)
      match progress with
      | .done => return (e, f, none)
      | .quit status =>
          if let some (_, stream) := f.current then
            if !keeping then
              giveBack stream ((e.rest.map (·.length)).foldl (· + ·) f.begun.length)
          return (e, f, some status)
      | .starved fresh =>
          let (f, ls) ← f.next e.mark pieceBound
          let name := (f.current.map (·.1)).getD e.name
          if f.failed then return (e, f, some f.status)
          editFeed quiet keeping os fuel fresh
            { e with rest := e.rest ++ ls, more := f.hasMore, name } f

/-- The words with the option for editing in place by itself: its value, if it has one, stands
directly behind it. -/
def partInPlace (words : List Text) : List Text :=
  words.flatMap fun w =>
    match w with
    | '-' :: c :: letters =>
        let before := (c :: letters).takeWhile (· != 'i')
        if c != '-' && before.length ≤ letters.length && !before.contains 'e' &&
            !before.contains 'f' && (c :: letters).drop (before.length + 1) == [] then
          (if before.isEmpty then [] else ['-' :: before]) ++ [['-', 'i'], []]
        else if w == "--in-place".toList then [['-', 'i'], []]
        else [w]
    | _ => [w]

/-- The scripts among options, and the operands; none if a file with a script cannot be read or
there is no script. -/
def scriptsOf (g : Given) : Action (Option (List Text × List Text)) := do
  let mut scripts := g.values 'e'
  for f in g.values 'f' do
    match ← content f with
    | .ok bytes =>
        scripts := scripts ++ [if bytes.getLast? == some '\n' then bytes.dropLast else bytes]
    | .error reason =>
        complainAs "sed" ("couldn't open file ".toList ++ f ++ ": ".toList ++ reason.toList)
        return none
  if g.has 'e' || g.has 'f' then return some (scripts, g.operands)
  match g.operands with
  | [] =>
      complain ("Usage: sed [OPTION]... " ++
        "\x7bscript-only-if-no-other-script\x7d [input-file]...").toList
      return none
  | t :: rest => return some ([t], rest)

/-- Edits the lines of files by a script. -/
def edit : List Text → Action Nat :=
  let kinds : OptionKinds := ⟨"nErsuz", "efil", [("quiet", 'n'), ("silent", 'n'),
    ("expression", 'e'), ("file", 'f'), ("regexp-extended", 'E'), ("in-place", 'i'),
    ("separate", 's'), ("null-data", 'z'), ("unbuffered", 'u'), ("line-length", 'l')]⟩
  fun words => withOptions "sed" kinds 1 (fun g => do
    match ← scriptsOf g with
    | none => return 1
    | some (scripts, files) =>
    match Script.ofText (g.has 'E' || g.has 'r') (Text.join ['\n'] scripts) with
    | .error (place, message) =>
        complainAs "sed" ("-e expression #1, char ".toList ++ Text.ofNat place ++ ": ".toList ++
          message)
        return 1
    | .ok os =>
        let inPlace := g.has 'i'
        let mark := if g.has 'z' then '\x00' else '\n'
        if inPlace && files.isEmpty then
          complainAs "sed" "no input files".toList
          return 4
        let mut sources : List (Text × List Text) := []
        for (whole, f) in Script.readFiles os do
          if let some bytes := file? (← get) f then
            let t := textOf bytes
            sources := sources ++ [if whole then ('<' :: f, [t]) else (f, linesIn t)]
        let written := (Script.writtenFiles os).eraseDups.filter (· != "/dev/stdout".toList)
        let mut known : List (Text × Text) := []
        for f in written do
          match ← store f [] with
          | none => known := known ++ [(f, [])]
          | some reason =>
              complainAs "sed" ("couldn't open file ".toList ++ f ++ ": ".toList ++ reason.toList)
              return 4
        let files := if files.isEmpty then [['-']] else files
        let mut status := 0
        let mut quits := false
        for group in (if inPlace || g.has 's' then files.map ([·]) else [files]) do
          if quits then continue
          let name := group.head?.getD []
          if inPlace && isDirectory (← get) name then
            complainAs "sed" ("couldn't edit ".toList ++ name ++ ": not a regular file".toList)
            status := 4
            continue
          if inPlace && name == ['-'] then
            complainAs "sed" "can't read -: No such file or directory".toList
            status := 2
            continue
          let old := ((file? (← get) name).map textOf).getD []
          let (e, f, ending) ← editFeed (g.has 'n') inPlace os.toArray pieceBound true
            { mark, sources, files := known } { operands := group }
          known := e.files
          sources := e.sources
          if f.status != 0 then status := f.status
          if let some s := ending then
            quits := true
            if s != 0 then status := s
          if inPlace && 0 < f.opened then
            -- What a script leaves unread when it ends stays in the file.
            let (_, unread) ← if f.hasMore then f.next mark pieceBound else pure (f, [])
            let suffix := (g.value? 'i').getD []
            if !suffix.isEmpty then
              let _ ← store (name ++ suffix) old
            let _ ← store name
              (e.shown.reverse.flatten ++ e.rest.flatten ++ f.begun ++ unread.flatten)
        for (f, t) in known do
          let _ ← store f t
        return status) (partInPlace words)

end Runbook.Shell
