import Runbook.Shell.Dates
import Runbook.Shell.Difference
import Runbook.Shell.Listing

set_option autoImplicit false

/-! # Comparing files

The utility that shows in what files and directories differ. The changes that make the second file
of the first one can be shown by themselves, with lines around them, as commands of an editor, or
side by side. Its status says whether there is a difference.
-/

namespace Runbook.Shell

open Difference

/-! ## What is compared -/

/-- How differences are shown. -/
inductive ChangeStyle where
  | plain
  | unified
  | context
  | commands
  | counted
  | beside
  deriving DecidableEq, Repr

/-- How files are compared and differences shown. -/
structure Comparing where
  style : ChangeStyle
  /-- How many lines are shown around a change. -/
  around : Nat
  given : Given
  /-- The options, as they were given. -/
  words : List Text
  now : Int

/-- One of the two files. -/
structure Side where
  name : Text
  lines : List Text
  moment : Int

namespace Comparing

/-- A line as it is compared. -/
def canonical (x : Comparing) (line : Text) : Text :=
  let g := x.given
  let line := if g.has 'i' then line.map Char.toLower else line
  let ended := fun (t : Text) => (t.reverse.dropWhile isSpace).reverse
  if g.has 'w' then line.filter (!isSpace ·)
  else if g.has 'b' then
    let words := fun (t : Text) => t.foldr (fun c done =>
      if isSpace c then if done.head? == some ' ' then done else ' ' :: done else c :: done) []
    words (ended line)
  else if g.has 'Z' then ended line
  else line

/-- Whether a change does not count because all of its lines are empty. -/
def isIgnored (x : Comparing) (a b : Side) (c : Change) : Bool :=
  let isEmpty := fun (l : Text) => (x.canonical l).all (· == '\n')
  x.given.has 'B' &&
    ((a.lines.drop c.first).take c.deleted).all isEmpty &&
    ((b.lines.drop c.second).take c.inserted).all isEmpty

end Comparing

/-! ## Lines -/

/-- A line of a file behind a mark. -/
def markedLine (mark line : Text) : Text :=
  mark ++ line ++ (if line.getLast? == some '\n' then []
    else "\n\\ No newline at end of file\n".toList)

/-- The lines from a place on behind a mark. -/
def markedLines (mark : Text) (s : Side) (first count : Nat) : Text :=
  ((s.lines.drop first).take count).flatMap (markedLine mark)

/-- The numbers of lines from a place on; of none it is the number of the line before. -/
def lineRange (first count : Nat) : Text :=
  if count == 0 then Text.ofNat first
  else if count == 1 then Text.ofNat (first + 1)
  else Text.ofNat (first + 1) ++ ',' :: Text.ofNat (first + count)

/-- A change as a command. -/
def Difference.Change.command (c : Change) : Text :=
  let letter := if c.deleted == 0 then 'a' else if c.inserted == 0 then 'd' else 'c'
  lineRange c.first c.deleted ++ letter :: lineRange c.second c.inserted ++ ['\n']

/-- A change by itself. -/
def plainChange (a b : Side) (c : Change) : Text :=
  c.command ++ markedLines ['<', ' '] a c.first c.deleted ++
    (if c.deleted != 0 && c.inserted != 0 then "---\n".toList else []) ++
    markedLines ['>', ' '] b c.second c.inserted

/-- A change as a command of a line editor, with the lines that are put in. -/
def editorChange (b : Side) (c : Change) : Text :=
  let letter := if c.deleted == 0 then 'a' else if c.inserted == 0 then 'd' else 'c'
  let ended := fun (l : Text) => if l.getLast? == some '\n' then l else l ++ ['\n']
  let lines := ((b.lines.drop c.second).take c.inserted).map ended
  -- A point alone would end what is put in, so it is put in twice and cut.
  let (body, inside) := lines.foldl (fun ((t, inside) : Text × Bool) l =>
    let t := if inside then t else t ++ ['a', '\n']
    if l == ['.', '\n'] then (t ++ "..\n.\ns/.//\n".toList, false) else (t ++ l, true)) ([], true)
  lineRange c.first c.deleted ++ letter :: '\n' :: body ++
    (if c.inserted != 0 && inside then ['.', '\n'] else [])

/-- A change as commands that say how many lines are deleted and added. -/
def countedChange (b : Side) (c : Change) : Text :=
  let numbers := fun (letter : Char) (first count : Nat) =>
    letter :: Text.ofNat first ++ ' ' :: Text.ofNat count ++ ['\n']
  (if c.deleted == 0 then [] else numbers 'd' (c.first + 1) c.deleted) ++
    (if c.inserted == 0 then []
    else numbers 'a' (c.first + c.deleted) c.inserted ++
      ((b.lines.drop c.second).take c.inserted).flatten)

/-! ## Changes with lines around them -/

/-- The changes in groups; those of a group are near one another. -/
def groups (x : Comparing) (isIgnored : Change → Bool) : List Change → List (List Change)
  | [] => []
  | c :: rest =>
      match groups x isIgnored rest with
      | (d :: more) :: others =>
          let limit := if isIgnored c || isIgnored d then x.around else 2 * x.around + 1
          if d.first - (c.first + c.deleted) < limit then (c :: d :: more) :: others
          else [c] :: (d :: more) :: others
      | others => [c] :: others

/-- The first lines of a group and how many there are in both files, with those around it. -/
def extent (x : Comparing) (a b : Side) (group : List Change) : Nat × Nat × Nat × Nat :=
  match group.head?, group.getLast? with
  | some c, some d =>
      let before := min x.around (min c.first c.second)
      let first := c.first - before
      let second := c.second - before
      let firstEnd := d.first + d.deleted
      let secondEnd := d.second + d.inserted
      let after := min x.around (min (a.lines.length - firstEnd) (b.lines.length - secondEnd))
      (first, firstEnd + after - first, second, secondEnd + after - second)
  | _, _ => (0, 0, 0, 0)

/-- Lines that are the same in both files, and changes, from two places on. -/
def unifiedBody (a b : Side) (stop place : Nat) : List Change → Text
  | [] => markedLines [' '] a place (stop - place)
  | c :: rest =>
      markedLines [' '] a place (c.first - place) ++ markedLines ['-'] a c.first c.deleted ++
        markedLines ['+'] b c.second c.inserted ++
        unifiedBody a b stop (c.first + c.deleted) rest

/-- A group in one list. -/
def unifiedGroup (x : Comparing) (a b : Side) (group : List Change) : Text :=
  let (first, firstCount, second, secondCount) := extent x a b group
  let range := fun (first count : Nat) =>
    if count == 1 then Text.ofNat (first + 1)
    else Text.ofNat (if count == 0 then first else first + 1) ++ ',' :: Text.ofNat count
  "@@ -".toList ++ range first firstCount ++ " +".toList ++ range second secondCount ++
    " @@\n".toList ++ unifiedBody a b (first + firstCount) first group

/-- The lines of one file around and in the changes of a group; a change in both files has a mark
of its own. -/
def contextBody (s : Side) (place? : Change → Nat × Nat) (mark : Char) (stop place : Nat) :
    List Change → Text
  | [] => markedLines [' ', ' '] s place (stop - place)
  | c :: rest =>
      let (first, count) := place? c
      let mark' := if c.deleted != 0 && c.inserted != 0 then '!' else mark
      markedLines [' ', ' '] s place (first - place) ++ markedLines [mark', ' '] s first count ++
        contextBody s place? mark stop (first + count) rest

/-- A group in two lists, one for each file. A list without changes is left out. -/
def contextGroup (x : Comparing) (a b : Side) (group : List Change) : Text :=
  let (first, firstCount, second, secondCount) := extent x a b group
  let range := fun (first count : Nat) =>
    if count ≤ 1 then Text.ofNat (first + count)
    else Text.ofNat (first + 1) ++ ',' :: Text.ofNat (first + count)
  let old := if group.any (·.deleted != 0) then
      contextBody a (fun c => (c.first, c.deleted)) '-' (first + firstCount) first group else []
  let new := if group.any (·.inserted != 0) then
      contextBody b (fun c => (c.second, c.inserted)) '+' (second + secondCount) second group
    else []
  "***************\n*** ".toList ++ range first firstCount ++ " ****\n".toList ++ old ++
    "--- ".toList ++ range second secondCount ++ " ----\n".toList ++ new

/-! ## Side by side -/

/-- How wide the output is, how much of a line is shown, and where the second column begins. -/
structure Columns where
  width : Nat
  half : Nat
  second : Nat

/-- The columns of a width. -/
def columnsOfWidth (w : Nat) : Columns :=
  let place := (w + 8 + 3) / 16 * 8
  let half := min (place - 3) (w - place)
  { width := w, half, second := if half == 0 then w else place }

/-- As much of a line as fits, from a column on, and the column behind it. -/
def halfLine (half start : Nat) (line : Text) : Text × Nat :=
  let (shown, _, out) := line.foldl (fun ((t, inside, out) : Text × Nat × Nat) c =>
    if c == '\n' then (t, inside, out)
    else if c == '\t' then
      let blanks := 8 - inside % 8
      let here := if inside == out && out + blanks < half then (t ++ [c], out + blanks)
        else (t, out)
      (here.1, inside + blanks, here.2)
    else if inside < half then (t ++ [c], inside + 1, inside + 1)
    else (t, inside + 1, out)) (([] : Text), 0, 0)
  (shown, start + out)

/-- Blanks from one column to another one, with tabulators as far as they reach. -/
def fillTo (here there : Nat) : Text :=
  let stops := (List.range (there / 8 + 1)).map fun k => here / 8 * 8 + (k + 1) * 8
  let tabs := stops.takeWhile (· ≤ there)
  let place := (tabs.getLast?).getD here
  tabs.map (fun _ => '\t') ++ List.replicate (there - place) ' '

/-- Two lines side by side, with a sign between them. -/
def besideLine (c : Columns) (left : Option Text) (sign : Char) (right : Option Text) : Text :=
  let isEnded := fun (l : Text) => l.getLast? == some '\n'
  let (first, column) := match left with
    | some l => halfLine c.half 0 l
    | none => ([], 0)
  let leftEnded := left.any isEnded
  let gutter := (c.half + c.second - 1) / 2
  let sign := if sign == '|' && right.any (fun r => leftEnded != isEnded r) then
    if leftEnded then '/' else '\\' else sign
  let (signed, column) := if sign == ' ' then ([], column)
    else (fillTo column gutter ++ [sign], gutter + 1)
  let second := match right with
    | some r =>
        if r.head? == some '\n' then []
        else fillTo column c.second ++ (halfLine c.half 0 r).1
    | none => []
  first ++ signed ++ second ++ (if leftEnded || right.any isEnded then ['\n'] else [])

/-- Lines side by side, from two places on. -/
def besideBody (x : Comparing) (c : Columns) (a b : Side) (i j : Nat) : List Change → Text
  | [] => same (a.lines.drop i) (b.lines.drop j)
  | d :: rest =>
      let count := d.first - i
      let both := min d.deleted d.inserted
      let old := (a.lines.drop d.first).take d.deleted
      let new := (b.lines.drop d.second).take d.inserted
      same ((a.lines.drop i).take count) ((b.lines.drop j).take count) ++
        ((old.zip new).flatMap fun (l, r) => besideLine c (some l) '|' (some r)) ++
        ((old.drop both).flatMap fun l => besideLine c (some l) '<' none) ++
        ((new.drop both).flatMap fun r => besideLine c none '>' (some r)) ++
        besideBody x c a b (d.first + d.deleted) (d.second + d.inserted) rest
where
  /-- Lines that are the same in both files. -/
  same (ls rs : List Text) : Text :=
    if x.given.has '\x02' then []
    else if x.given.has '\x03' then ls.flatMap fun l => besideLine c (some l) '(' none
    else (ls.zip rs).flatMap fun (l, r) => besideLine c (some l) ' ' (some r)

/-! ## Two files -/

namespace Comparing

/-- A heading of a file. -/
def heading (x : Comparing) (mark : String) (s : Side) (label : Option Text) : Text :=
  let format := if x.style == .context then "%a %b %e %H:%M:%S %Y" else "%Y-%m-%d %H:%M:%S.%N %z"
  mark.toList ++ ' ' :: (match label with
    | some l => l
    | none => s.name ++ '\t' :: (Date.ofMoment s.moment).formatted 128 format.toList) ++ ['\n']

/-- What is shown of the changes between two files. -/
def shown (x : Comparing) (a b : Side) (cs : List Change) : Text :=
  let labels := x.given.values 'L'
  let counted := cs.filter (!x.isIgnored a b ·)
  let grouped := (groups x (x.isIgnored a b) cs).filter (·.any (!x.isIgnored a b ·))
  match x.style with
  | .plain => counted.flatMap (plainChange a b)
  | .commands => counted.reverse.flatMap (editorChange b)
  | .counted => counted.flatMap (countedChange b)
  | .unified =>
      x.heading "---" a labels[0]? ++ x.heading "+++" b labels[1]? ++
        grouped.flatMap (unifiedGroup x a b)
  | .context =>
      x.heading "***" a labels[0]? ++ x.heading "---" b labels[1]? ++
        grouped.flatMap (contextGroup x a b)
  | .beside =>
      let width := ((x.given.value? 'W').map (inBase 10)).getD 130
      besideBody x (columnsOfWidth width) a b 0 0 cs

/-- A file that is compared, or why it cannot be read. -/
def side (x : Comparing) (t : Text) : Action (Except String (Side × Text)) := do
  let moment := (changed? (← get) t).getD x.now
  let moment := if t == ['-'] then x.now else moment
  match ← content t with
  | .ok bytes => return .ok ({ name := t, lines := fullLines bytes, moment }, bytes)
  | .error reason => return .error reason

/-- Compares two files, and gives the status. With `announced` the files are named before the
differences. -/
def files (x : Comparing) (announced : Bool) (t u : Text) : Action Nat := do
  let s ← get
  let g := x.given
  let isMissing := fun (v : Text) => v != ['-'] && (place? s v).isNone
  let spared := fun (v : Text) => g.has 'N' && isMissing v && !(isMissing t && isMissing u)
  let read := fun (v : Text) => do
    if spared v then
      return Except.ok (({ name := v, lines := [], moment := 0 } : Side), ([] : Text))
    x.side v
  let first ← read t
  let second ← if t == ['-'] && u == ['-'] then pure first else read u
  let complainOfSide := fun (v : Text) (r : Except String (Side × Text)) => do
    if let .error reason := r then complainOf "diff" "" v reason
  complainOfSide t first
  complainOfSide u second
  match first, second with
  | .ok (a, old), .ok (b, new) =>
      let named := fun (what : String) =>
        what.toList ++ t ++ " and ".toList ++ u
      let same := do
        if g.has 's' then writeLine (named "Files " ++ " are identical".toList)
        return 0
      let isBinary := fun (bytes : Text) => (bytes.take 8192).contains '\x00'
      if old == new then
        if x.style == .beside && !g.has 'q' then write (x.shown a b [])
        same
      else if !g.has 'a' && (isBinary old || isBinary new) then
        if g.has 'q' then writeLine (named "Files " ++ " differ".toList)
        else writeLine (named "Binary files " ++ " differ".toList)
        return 1
      else
        let around := if x.style == .unified || x.style == .context then x.around else 0
        let cs := changes x.canonical around a.lines b.lines
        if cs.all (x.isIgnored a b) then
          if x.style == .beside && !g.has 'q' then write (x.shown a b cs)
          same
        else
          if g.has 'q' then writeLine (named "Files " ++ " differ".toList)
          else
            if announced then
              writeLine ("diff ".toList ++ Text.join [' '] (x.words ++ [t, u]))
            write (x.shown a b cs)
          return 1
  | _, _ => return 2

/-- What a file is, in words. -/
def kindOf (s : State) (t : Text) : Text := ((facts? s t).map (·.kindName)).getD "" |>.toList

/-- Compares what stands under two names, and gives the status. Directories are compared name by
name. -/
def both (x : Comparing) : Nat → Bool → Text → Text → Action Nat
  | 0, _, _, _ => return 2
  | fuel + 1, inner, t, u => do
      let s ← get
      let g := x.given
      match isDirectory s t, isDirectory s u with
      | true, true =>
          if inner && !g.has 'r' then
            writeLine ("Common subdirectories: ".toList ++ t ++ " and ".toList ++ u)
            return 0
          let hidden := (g.values 'x').map fun p => patternOf (p.map fun c => (false, c))
          let inside := fun (v : Text) =>
            ((sortedNames s.system.tree ((reached s v).getD [])).map inward).filter fun n =>
              !hidden.any (matchesPattern · n)
          let old := inside t
          let new := inside u
          let all := (old ++ new.filter (!old.contains ·)).mergeSort fun a b => !Text.before b a
          let mut status := 0
          for n in all do
            let p := inDirectory t n
            let q := inDirectory u n
            let result ←
              if old.contains n && new.contains n then x.both fuel true p q
              else if g.has 'N' && !isDirectory s (if old.contains n then p else q) then
                x.files true p q
              else
                let dir := if old.contains n then t else u
                writeLine ("Only in ".toList ++ dir ++ ": ".toList ++ n)
                pure 1
            status := max status result
          return status
      | true, false =>
          if inner then mixed s t u
          else x.both fuel false (inDirectory t (lastName u)) u
      | false, true =>
          if inner then mixed s t u
          else x.both fuel false t (inDirectory u (lastName t))
      | false, false => x.files inner t u
where
  /-- Says that one is a directory and the other is not. -/
  mixed (s : State) (t u : Text) : Action Nat := do
    writeLine ("File ".toList ++ t ++ " is a ".toList ++ kindOf s t ++ " while file ".toList ++ u ++
      " is a ".toList ++ kindOf s u)
    return 1

end Comparing

/-! ## The utility -/

/-- Says how the utility is used. -/
def misusedDiff (message : Text) : Action Nat := do
  complainAs "diff" message
  complainAs "diff" "Try 'diff --help' for more information.".toList
  return 2

/-- The words that are no operands; both lists go from the last word to the first. -/
def withoutOperands : List Text → List Text → List Text
  | t :: ts, w :: ws =>
      if t == w then withoutOperands ts ws else w :: withoutOperands (t :: ts) ws
  | _, ws => ws

/-- Shows in what files or directories differ. -/
def showDifferences (words : List Text) : Action Nat := do
  -- Options that have no letter stand as control characters.
  let kinds : OptionKinds := ⟨"abBcdeEilnNpqrstTuvwyZ0123456789\x01\x02\x03", "CFILUWxX",
    [("brief", 'q'), ("report-identical-files", 's'), ("context", 'C'), ("unified", 'U'),
      ("ed", 'e'), ("rcs", 'n'), ("side-by-side", 'y'), ("width", 'W'), ("label", 'L'),
      ("recursive", 'r'), ("new-file", 'N'), ("ignore-case", 'i'), ("ignore-all-space", 'w'),
      ("ignore-space-change", 'b'), ("ignore-trailing-space", 'Z'), ("ignore-blank-lines", 'B'),
      ("text", 'a'), ("minimal", 'd'), ("exclude", 'x'), ("normal", '\x01'),
      ("suppress-common-lines", '\x02'), ("left-column", '\x03')]⟩
  let spelt := words.map fun w =>
    match String.ofList w with
    | "--context" => "-c".toList
    | "--unified" => "-u".toList
    | _ => w
  match readGiven kinds false spelt with
  | .error message => misusedDiff message
  | .ok g =>
      let around := (g.options.reverse.findSome? fun (c, v) =>
        if c == 'U' || c == 'C' then some (inBase 10 v)
        else none)
      let digits := (g.options.filter (·.1.isDigit)).map (·.1)
      let around := around <|> (if digits.isEmpty then none else some (inBase 10 digits))
      let style := match g.last? "uUcCeny\x01" with
        | some 'u' => ChangeStyle.unified
        | some 'U' => .unified
        | some 'c' => .context
        | some 'C' => .context
        | some 'e' => .commands
        | some 'n' => .counted
        | some 'y' => .beside
        | _ => .plain
      let x : Comparing := {
        style, around := around.getD 3, given := g
        words := (withoutOperands g.operands.reverse words.reverse).reverse
        now := ← clock }
      match g.operands with
      | [] => misusedDiff "missing operand after 'diff'".toList
      | [t] => misusedDiff ("missing operand after ".toList ++ quoted t)
      | [t, u] =>
          x.both 64 false t u
      | _ :: _ :: t :: _ => misusedDiff ("extra operand ".toList ++ quoted t)

end Runbook.Shell
