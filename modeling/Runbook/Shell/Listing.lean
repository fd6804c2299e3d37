import Runbook.Shell.Calendar
import Runbook.Shell.Files
import Runbook.Shell.Printing

set_option autoImplicit false

/-! # Listing

Showing what is known of files: their names in an order, their permissions, how long they are and
when they were changed. All of them belong to the one user that there is.
-/

namespace Runbook.Shell

/-! ## What is known of an entry -/

/-- What is known of a file. -/
structure Facts where
  /-- The letter of its kind. -/
  kind : Char
  mode : Nat
  /-- How many names it has. -/
  links : Nat
  size : Nat
  /-- How many blocks of 512 bytes it takes. -/
  blocks : Nat
  time : Int

/-- The name of the user, and of the group. -/
def userName : Text := "root".toList

/-- How many bytes a directory takes. -/
def directorySize : Nat := 4096

/-- What is known of an entry. -/
def System.facts (s : System) (names : List Text) (e : Entry) : Facts :=
  let mode := s.modeOf names
  let time := s.timeOf names
  match e with
  | .directory =>
      let inside := (s.tree.namesIn names).filter fun n =>
        s.tree.entry? (names ++ [n]) == some .directory
      { kind := 'd', mode, links := 2 + inside.length, size := directorySize, blocks := 8, time }
  | .file bytes _ =>
      { kind := '-', mode, links := (s.namesOf names).length, size := bytes.length
        blocks := (bytes.length + 4095) / 4096 * 8, time }

/-- What is known of what a text names. -/
def facts? (s : State) (t : Text) : Option Facts :=
  match place? s t with
  | some (.entry names e) => some (s.system.facts names e)
  | some (.device _) =>
      some ⟨'c', 0o666, 1, 0, 0, s.system.stamp⟩
  | some (.opened _ _) =>
      some ⟨'p', 0o600, 1, 0, 0, s.system.stamp⟩
  | none => none

/-- The permissions with the letter of the kind in front. -/
def Facts.shownMode (f : Facts) : Text := f.kind :: shownBits f.mode

/-! ## Numbers for people -/

/-- A number of bytes with a letter for its unit, rounded up, of at most two digits before a unit
or one digit behind a point. -/
def readableSize (base n : Nat) : Text :=
  let rec go (fuel unit : Nat) (letters : Text) : Text :=
    match fuel, letters with
    | fuel + 1, c :: rest =>
        let tenths := (n * 10 + unit - 1) / unit
        let whole := (n + unit - 1) / unit
        if tenths < 100 then Text.ofNat (tenths / 10) ++ '.' :: Text.ofNat (tenths % 10) ++ [c]
        else if whole < base then Text.ofNat whole ++ [c]
        else go fuel (unit * base) rest
    | _, _ => Text.ofNat n
  let units := if base == 1000 then "kMGTPEZY" else "KMGTPEZY"
  if n < base then Text.ofNat n else go 8 base units.toList

/-! ## Order -/

/-- One line of a list. -/
structure Listed where
  name : Text
  facts : Facts
  isRunnable : Bool := false

/-- The ending of a name, from its last point on. -/
def endingOf (name : Text) : Text :=
  let last := (name.reverse.takeWhile (· != '.')).reverse
  if last.length == name.length then [] else last

/-- Whether one comes before or beside another one in the order that is asked for. -/
def precedes (g : Given) (a b : Listed) : Bool :=
  let byName := !Text.before b.name a.name
  match g.last? "tSXUf" with
  | some 't' =>
      b.facts.time < a.facts.time || (a.facts.time == b.facts.time && byName)
  | some 'S' => b.facts.size < a.facts.size || (a.facts.size == b.facts.size && byName)
  | some 'X' =>
      let x := endingOf a.name
      let y := endingOf b.name
      Text.before x y || (x == y && byName)
  | _ => byName

/-- A list in the order that is asked for. -/
def inOrder (g : Given) (ls : List Listed) : List Listed :=
  let sorted := ls.mergeSort (precedes g)
  if g.has 'r' then sorted.reverse else sorted

/-! ## Lines -/

/-- A name as it is shown. -/
def Listed.shown (g : Given) (l : Listed) : Text :=
  let escaped := fun (extra : List Char) => l.name.flatMap fun c =>
    match escapedByte? c with
    | some e => e
    | none => if extra.contains c then ['\\', c] else [c]
  let name := match g.last? "QbN" with
    | some 'Q' => '"' :: escaped ['"', '\\'] ++ ['"']
    | some 'b' => escaped [' ', '\\']
    | _ => l.name
  let mark := match l.facts.kind with
    | 'd' => if g.has 'F' || g.has 'p' then ['/'] else []
    | _ => if l.isRunnable && g.has 'F' then ['*'] else []
  name ++ mark

/-- A text that ends at a width. -/
def toRight (width : Nat) (t : Text) : Text := List.replicate (width - t.length) ' ' ++ t

/-- When a file was changed, as a long list shows it. -/
def shownTime (g : Given) (now t : Int) : Text :=
  let halfYear : Int := 15778476 * 1000000
  let recent := now - halfYear < t && t ≤ now
  let style := if g.has '\x01' then "full-iso".toList else (g.value? '\x03').getD []
  let format := match style with
    | '+' :: f => f
    | style =>
        match String.ofList style with
        | "full-iso" => "%Y-%m-%d %H:%M:%S.%N %z".toList
        | "long-iso" => "%Y-%m-%d %H:%M".toList
        | "iso" => if recent then "%m-%d %H:%M".toList else "%Y-%m-%d ".toList
        | _ => if recent then "%b %e %H:%M".toList else "%b %e  %Y".toList
  (Date.ofMoment t).formatted (format.length + 64) format

/-- Whether everything that is known is shown. -/
def isLong (g : Given) : Bool := (g.last? "1Cmxlgon" |>.any "lgon".toList.contains) || g.has '\x01'

/-- The lines of a long list. -/
def longLines (g : Given) (now : Int) (ls : List Listed) : List Text :=
  let size := fun (f : Facts) =>
    if g.has 'h' then readableSize 1024 f.size else if g.has '\x02' then readableSize 1000 f.size
    else Text.ofNat f.size
  let widest := fun (f : Facts → Text) => ls.foldl (fun n l => max n (f l.facts).length) 0
  let links := fun (f : Facts) => Text.ofNat f.links
  let owner := if g.has 'n' then ['0'] else userName
  let linksWidth := widest links
  let sizeWidth := widest size
  ls.map fun l =>
    let f := l.facts
    f.shownMode ++ ' ' :: toRight linksWidth (links f) ++ ' ' ::
      (if g.has 'g' then [] else owner ++ [' ']) ++
      (if g.has 'o' || g.has 'G' then [] else owner ++ [' ']) ++
      toRight sizeWidth (size f) ++ ' ' :: shownTime g now f.time ++ ' ' :: l.shown g

/-- How wide a line may be. -/
def lineWidth (g : Given) : Nat := ((g.value? 'w').map (inBase 10)).getD 80

/-- Blanks that lead from one place of a line to another one, with tabulators as far as they
reach. -/
def gap : Nat → Nat → Nat → Text
  | 0, _, _ => []
  | fuel + 1, here, there =>
      if here < there then
        if (here + 1) / 8 < there / 8 then '\t' :: gap fuel (here / 8 * 8 + 8) there
        else ' ' :: gap fuel (here + 1) there
      else []

/-- Texts in as many columns as fit on lines; `down` says whether they follow one another from
line to line. -/
def inColumns (width : Nat) (down : Bool) (ts : List Text) : List Text :=
  let count := ts.length
  let table := ts.toArray
  let layout := fun (columns : Nat) =>
    let rows := (count + columns - 1) / columns
    let place := fun (i : Nat) => if down then (i % rows, i / rows) else (i / columns, i % columns)
    let widths := (List.range columns).map fun k =>
      (List.range count).foldl (fun w i =>
        if (place i).2 == k then max w ((table[i]?.getD []).length + 2) else w) 0
    (rows, widths)
  let fits := fun (columns : Nat) =>
    let (_, widths) := layout columns
    -- The blanks behind the last column do not count.
    columns ≤ 1 || (widths.foldl (· + ·) 0 ≤ width + 1 && widths.all (0 < ·))
  let columns := (((List.range (min count (width / 3 + 1) + 1)).reverse).find? fun c =>
    0 < c && fits c).getD 1
  let (rows, widths) := layout columns
  (List.range rows).map fun row =>
    let inRow := (List.range columns).filterMap fun k =>
      let i := if down then k * rows + row else row * columns + k
      if i < count then some (table[i]?.getD [], widths[k]?.getD 0) else none
    let last := inRow.length - 1
    let (line, _, _) := inRow.foldl (fun (line, place, n) (t, w) =>
      let stop := place + t.length
      let next := place + w
      let blanks := if n == last then [] else gap w stop next
      (line ++ t ++ blanks, next, n + 1)) (([] : Text), 0, 0)
    line

/-- Texts behind one another with commas, on lines that are not too wide. -/
def withCommas (width : Nat) : Text → List Text → List Text
  | line, [] => if line.isEmpty then [] else [line]
  | line, t :: rest =>
      let comma := if rest.isEmpty then [] else [',']
      if line.isEmpty then withCommas width (t ++ comma) rest
      else if line.length + 1 + t.length + comma.length < width + comma.length then
        withCommas width (line ++ ' ' :: t ++ comma) rest
      else line :: withCommas width (t ++ comma) rest

/-- Prints a list, as is asked for. -/
def showList (g : Given) (ls : List Listed) : Action Unit := do
  if isLong g then
    write (Text.terminated (longLines g (← clock) ls))
  else
    let sized := fun (l : Listed) =>
      if g.has 's' then Text.ofNat (l.facts.blocks / 2) ++ ' ' :: l.shown g else l.shown g
    let names := ls.map sized
    write (Text.terminated (match g.last? "1Cmx" with
      | some 'm' => withCommas (lineWidth g) [] names
      | some 'C' => inColumns (lineWidth g) true names
      | some 'x' => inColumns (lineWidth g) false names
      | _ => names))

/-- The entry of a name as a line of a list. -/
def listed (s : System) (names : List Text) (name : Text) (e : Entry) : Listed :=
  { name
    facts := s.facts names e
    isRunnable := match e with
      | .file _ runnable => runnable
      | _ => false }

/-- Lists what a directory holds, and with the option for it what those in it hold. The list has
a heading if there is more than one. -/
def listDirectory (g : Given) : Nat → Bool → Bool → List Text → Text → Action Unit
  | 0, _, _, _, _ => return
  | fuel + 1, headed, later, names, shown => do
      let s := (← get).system
      let hidden := (g.values 'I').map fun t => patternOf (t.map fun c => (false, c))
      let found := (sortedNames s.tree names).map inward
      let visible := found.filter fun n =>
        (g.has 'a' || g.has 'A' || g.has 'f' || n.head? != some '.') &&
          !hidden.any (matchesPattern · n) && !(g.has 'B' && n.getLast? == some '~')
      let inside := visible.filterMap fun n =>
        let at? := names ++ [(outward? n).getD n]
        (s.tree.entry? at?).map fun e => listed s at? n e
      let own := if g.last? "aA" == some 'a' || g.has 'f' then
          [listed s names ['.'] .directory, listed s names.dropLast ['.', '.'] .directory]
        else []
      let all := inOrder g (own ++ inside)
      if later then write ['\n']
      if headed then writeLine (shown ++ [':'])
      if isLong g || g.has 's' then
        let blocks := all.foldl (fun n l => n + l.facts.blocks) 0
        let size := if g.has 'h' then readableSize 1024 (blocks * 512) else Text.ofNat (blocks / 2)
        writeLine ("total ".toList ++ size)
      showList g all
      if g.has 'R' then
        for l in inOrder g inside do
          if l.facts.kind == 'd' then
            listDirectory g fuel true true (names ++ [(outward? l.name).getD l.name])
              (inDirectory shown l.name)

/-- The letter of an order that is named. -/
def orderLetter (name : Text) : Char :=
  match String.ofList name with
  | "time" => 't'
  | "size" => 'S'
  | "extension" => 'X'
  | _ => 'U'

/-- Prints the names of files and of what directories hold. -/
def list : List Text → Action Nat :=
  let kinds : OptionKinds := ⟨"1aAbBcCdfFgGhHiklLmnNopqQrRsStuUvxXZ\x01\x02", "ITw\x03\x04", [
    ("all", 'a'), ("almost-all", 'A'), ("directory", 'd'), ("recursive", 'R'), ("reverse", 'r'),
    ("classify", 'F'), ("full-time", '\x01'), ("si", '\x02'), ("human-readable", 'h'),
    ("size", 's'), ("numeric-uid-gid", 'n'), ("no-group", 'G'), ("ignore", 'I'),
    ("ignore-backups", 'B'),
    ("quote-name", 'Q'), ("escape", 'b'), ("literal", 'N'), ("width", 'w'),
    ("time-style", '\x03'), ("sort", '\x04'), ("color", 'T')]⟩
  -- Options that have no letter stand as control characters.
  withOptions "ls" kinds 2 fun given => do
    let g : Given := { given with options := given.options.map fun (c, v) =>
      if c == '\x04' then (orderLetter v, []) else (c, v) }
    let s ← get
    let status ← eachOf g.operands 2 fun t => do
      if (facts? s t).isSome then return true
      complainOf "ls" "cannot access " (quoted t) (absence s t)
      return false
    let operands := if g.operands.isEmpty then [['.']] else g.operands
    let there := operands.filterMap fun t => (facts? s t).map fun facts => ({
      name := t, facts
      isRunnable := match look? s t with
        | some (.file _ runnable) => runnable
        | _ => false } : Listed)
    let (dirs, files) := there.partition fun l => l.facts.kind == 'd' && !g.has 'd'
    showList g (inOrder g files)
    let headed := g.operands.length > 1 || g.has 'R'
    let mut later := !files.isEmpty
    for l in inOrder g dirs do
      listDirectory g 64 headed later ((reached s l.name).getD []) l.name
      later := true
    return status

/-! ## Facts in a format -/

/-- The kind of a file in words. -/
def Facts.kindName (f : Facts) : String :=
  match f.kind with
  | 'd' => "directory"
  | 'c' => "character special file"
  | 'p' => "fifo"
  | _ => if f.size == 0 then "regular empty file" else "regular file"

/-- The number by which the system knows a kind of file. -/
def Facts.kindBits (f : Facts) : Nat :=
  match f.kind with
  | 'd' => 0x4000
  | 'c' => 0x2000
  | 'p' => 0x1000
  | _ => 0x8000

/-- What a letter of a format stands for. -/
def Facts.field? (f : Facts) (name : Text) (c : Char) : Option Text :=
  let moment := fun (format : String) =>
    some ((Date.ofMoment f.time).formatted 128 format.toList)
  let number := fun (n : Nat) => some (Text.ofNat n)
  match c with
  | 'a' => some (Nat.toDigits 8 f.mode)
  | 'A' => some f.shownMode
  | 'b' => number f.blocks
  | 'B' => number 512
  | 'f' => some (Nat.toDigits 16 (f.kindBits + f.mode))
  | 'F' => some f.kindName.toList
  | 'g' => number 0
  | 'G' => some userName
  | 'h' => number f.links
  | 'n' => some name
  | 'N' => some (quoted name)
  | 'o' => number 4096
  | 's' => number f.size
  | 't' => number 0
  | 'T' => number 0
  | 'u' => number 0
  | 'U' => some userName
  | 'x' => moment "%Y-%m-%d %H:%M:%S.%N %z"
  | 'X' => moment "%s"
  | 'y' => moment "%Y-%m-%d %H:%M:%S.%N %z"
  | 'Y' => moment "%s"
  | 'z' => moment "%Y-%m-%d %H:%M:%S.%N %z"
  | 'Z' => moment "%s"
  | 'w' => some ['-']
  | 'W' => number 0
  | _ => none

/-- What is known of a file in a format; `escapes` says whether backslashes count. -/
def Facts.formatted (f : Facts) (name : Text) (escapes : Bool) : Nat → Text → Text
  | 0, _ => []
  | _, [] => []
  | fuel + 1, '%' :: '%' :: rest => '%' :: f.formatted name escapes fuel rest
  | fuel + 1, '%' :: rest =>
      let flags := rest.takeWhile "-0 +#'".toList.contains
      let digits := (rest.drop flags.length).takeWhile Char.isDigit
      match rest.drop (flags.length + digits.length) with
      | [] => '%' :: rest
      | c :: more =>
          let shown := (f.field? name c).getD ['?']
          let width := inBase 10 digits
          let filler := if flags.contains '0' && !flags.contains '-' then '0' else ' '
          let blanks := List.replicate (width - shown.length) filler
          (if flags.contains '-' then shown ++ blanks else blanks ++ shown) ++
            f.formatted name escapes fuel more
  | fuel + 1, '\\' :: rest =>
      if escapes then
        let (c, more) := readEscape rest
        c :: f.formatted name escapes fuel more
      else '\\' :: f.formatted name escapes fuel rest
  | fuel + 1, c :: rest => c :: f.formatted name escapes fuel rest

/-- The format in which facts are shown when none is given. -/
def plainFormat : Text := ("  File: %N\n  Size: %-10s\tBlocks: %-10b IO Block: %-6o %F\n" ++
  "Access: (%04a/%10A)  Uid: (%5u/%8U)   Gid: (%5g/%8G)\nAccess: %x\nModify: %y\n" ++
  "Change: %z\n Birth: %w\n").toList

/-- Prints what is known of files. -/
def showFacts : List Text → Action Nat :=
  let kinds : OptionKinds := ⟨"Lft", "cP", [("format", 'c'), ("printf", 'P'),
    ("dereference", 'L'), ("terse", 't')]⟩
  withOptions "stat" kinds 1 fun g => do
    if g.operands.isEmpty then return ← misused "stat" "missing operand".toList 1
    eachOf g.operands 1 fun t => do
      let s ← get
      match facts? s t with
      | some f =>
          match g.value? 'P', g.value? 'c' with
          | some format, _ => write (f.formatted t true (format.length + 1) format)
          | none, some format => writeLine (f.formatted t false (format.length + 1) format)
          | none, none => write (f.formatted t false (plainFormat.length + 1) plainFormat)
          return true
      | none =>
          complainOf "stat" "cannot statx " (quoted t) (absence s t)
          return false

end Runbook.Shell
