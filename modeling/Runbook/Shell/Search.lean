import Runbook.Shell.Files
import Runbook.Shell.Filters
import Runbook.Shell.Regular

set_option autoImplicit false

/-! # Searching and calculating

Two utilities that match regular expressions: one prints the lines of files in which something is
found, the other evaluates an expression whose operands and operators are words.
-/

namespace Runbook.Shell

/-! ## Lines in which something is found -/

/-- What is searched for. -/
structure Search where
  patterns : List Regular
  folded : Bool
  /-- Whether a match must be the whole line, or begin and end at the edges of words. -/
  wholeLine : Bool
  wholeWord : Bool

namespace Search

/-- The first match in a line from a place on. -/
def find? (x : Search) (s : Regular.Subject) (place : Nat) : Option Regular.Match :=
  let good := fun (m : Regular.Match) =>
    (!x.wholeLine || (m.first == 0 && m.last == s.bytes.size)) &&
    (!x.wholeWord || (!(s.around m.first).1 && !(s.around m.last).2))
  x.patterns.foldl (fun best r =>
    match best, Regular.find? r s place good with
    | some b, some m =>
        if m.first < b.first || (m.first == b.first && b.last < m.last) then some m else best
    | none, m => m
    | best, none => best) none

/-- The line as it is searched. -/
def subject (x : Search) (line : Text) : Regular.Subject := ⟨line.toArray, x.folded⟩

/-- Whether a line holds a match. -/
def holds (x : Search) (line : Text) : Bool := (x.find? (x.subject line) 0).isSome

/-- The matches in a line that are not empty, one behind the other. -/
def all (x : Search) (s : Regular.Subject) : Nat → Nat → List Text
  | 0, _ => []
  | fuel + 1, place =>
      match x.find? s place with
      | some m =>
          if m.first == m.last then all x s fuel (place + 1)
          else s.between m.first m.last :: all x s fuel m.last
      | none => []

end Search

/-- The files at and below a place. -/
def filesBelow (tree : FileTree) : Nat → List Text → Text → List Text
  | 0, _, _ => []
  | fuel + 1, names, shown =>
      if tree.entry? names == some .directory then
        (sortedNames tree names).flatMap fun n =>
          filesBelow tree fuel (names ++ [n])
            (if shown.isEmpty then inward n else inDirectory shown (inward n))
      else [shown]

/-- How what is found is shown. -/
structure Showing where
  /-- Whether lines are selected in which nothing is found. -/
  negated : Bool
  /-- Whether only parts of lines are shown. -/
  parts : Bool
  /-- Whether no lines are shown. -/
  silent : Bool
  /-- Whether one line is enough. -/
  brief : Bool
  numbered : Bool
  most : Option Nat
  before : Nat
  after : Nat

/-- How far a file has been searched. -/
structure Progress where
  /-- The number of the last line. -/
  line : Nat := 0
  hits : Nat := 0
  /-- The lines before it that have not been shown, the nearest first. -/
  passed : List Text := []
  /-- How many lines are still to be shown behind the last hit. -/
  left : Nat := 0
  /-- The number of the last line that has been shown. -/
  shown : Option Nat := none
  /-- Whether something has been shown of another file. -/
  later : Bool := false
  /-- What is to be printed, the last piece first. -/
  output : List Text := []

namespace Progress

/-- Whether no more lines are wanted. -/
def isDone (p : Progress) (w : Showing) : Bool :=
  (w.brief && 0 < p.hits) || (w.most.any (· ≤ p.hits) && p.left == 0)

/-- Shows the line of a number. -/
def put (p : Progress) (w : Showing) (label : Char → Text) (n : Nat) (sep : Char) (t : Text) :
    Progress :=
  let number := if w.numbered then Text.ofNat n ++ [sep] else []
  { p with
    output := (label sep ++ number ++ t ++ ['\n']) :: p.output
    shown := some n
    later := true }

/-- Shows a hit, with the lines around it that are wanted. -/
def hit (p : Progress) (w : Showing) (x : Search) (label : Char → Text) (t : Text) : Progress :=
  let p := { p with hits := p.hits + 1, left := if w.silent then 0 else w.after }
  if w.silent then p
  else if w.parts then
    if w.negated then p
    else (x.all (x.subject t) (t.length + 1) 0).foldl (fun p part =>
      p.put w label p.line ':' part) p
  else
    let first := p.line - p.passed.length
    let around := 0 < w.before || 0 < w.after
    let apart := match p.shown with
      | some n => n + 1 != first
      | none => p.later
    let p := if around && apart then { p with output := ['-', '-', '\n'] :: p.output } else p
    let numbered := p.passed.reverse.zip ((List.range p.passed.length).map (· + first))
    let p := numbered.foldl (fun p (l, n) => p.put w label n '-' l) { p with passed := [] }
    p.put w label p.line ':' t

/-- Looks at a line. -/
def next (p : Progress) (w : Showing) (x : Search) (label : Char → Text) (t : Text) : Progress :=
  let p := { p with line := p.line + 1 }
  if w.most.all (p.hits < ·) && x.holds t != w.negated then p.hit w x label t
  else if 0 < p.left then { p.put w label p.line '-' t with left := p.left - 1 }
  else { p with passed := (t :: p.passed).take w.before }

/-- Looks at lines up to one behind which no more are wanted, and gives those that are left. -/
def across (w : Showing) (x : Search) (label : Char → Text) :
    List Text → Progress → Progress × Option (List Text)
  | [], p => (p, none)
  | l :: rest, p =>
      let p := p.next w x label (withoutLineEnd l)
      if p.isDone w then (p, some rest) else across w x label rest p

end Progress

/-- Searches what a stream leads to. -/
def searchStream (w : Showing) (x : Search) (label : Char → Text) (later : Bool) (stream : Nat) :
    Action (Except String Progress) := do
  let start : Progress := { later }
  if start.isDone w then return .ok start
  let step := fun (p : Progress) (ls : List Text) => do
    let (p, rest) := Progress.across w x label ls p
    write p.output.reverse.flatten
    -- One line is enough only for the answer; what stands behind it counts as read.
    let rest := if w.brief then rest.map fun _ => [] else rest
    return ({ p with output := [] }, rest)
  overLines stream step pieceBound [] start

/-- Prints the lines in which something is found; `kind` is the letter of the notation. -/
def searchLines (kind : Char) : List Text → Action Nat :=
  let kinds : OptionKinds := ⟨"EFGivwxclLqsnHhorRaybUzT", "efmABC", [("extended-regexp", 'E'),
    ("fixed-strings", 'F'), ("ignore-case", 'i'), ("invert-match", 'v'), ("word-regexp", 'w'),
    ("line-regexp", 'x'), ("count", 'c'), ("files-with-matches", 'l'),
    ("files-without-match", 'L'), ("quiet", 'q'), ("silent", 'q'), ("no-messages", 's'),
    ("line-number", 'n'), ("with-filename", 'H'), ("no-filename", 'h'), ("only-matching", 'o'),
    ("recursive", 'r'), ("regexp", 'e'), ("file", 'f'), ("max-count", 'm'),
    ("after-context", 'A'), ("before-context", 'B'), ("context", 'C')]⟩
  withOptions "grep" kinds 2 fun g => do
    let mut files := g.operands
    let mut sources := g.values 'e'
    for t in g.values 'f' do
      match ← content t with
      | .ok bytes => sources := sources ++ linesIn bytes
      | .error reason =>
          complainOf "grep" "" t reason
          return 2
    if !g.has 'e' && !g.has 'f' then
      match files with
      | [] =>
          complain "Usage: grep [OPTION]... PATTERNS [FILE]...".toList
          complain "Try 'grep --help' for more information.".toList
          return 2
      | t :: rest =>
          sources := [t]
          files := rest
    let style := (g.last? "EFG").getD kind
    let read := fun (t : Text) =>
      if style == 'F' then .ok (Regular.literal t) else Regular.ofText (style == 'E') t
    match (sources.flatMap fun t => t.splitOn '\n').mapM read with
    | .error fault =>
        complainAs "grep" fault.message.toList
        return 2
    | .ok patterns =>
        let x : Search := {
          patterns
          folded := g.has 'i' || g.has 'y'
          wholeLine := g.has 'x'
          wholeWord := g.has 'w' }
        let deep := g.has 'r' || g.has 'R'
        let s ← get
        let expanded := files.flatMap fun t =>
          if deep && isDirectory s t then
            filesBelow s.system.tree 64 ((reached s t).getD []) t
          else [t]
        let inputs :=
          if !files.isEmpty then expanded
          else if deep then filesBelow s.system.tree 64 s.process.directory []
          else [['-']]
        let headed := (1 < files.length || deep || g.has 'H') && g.last? "hH" != some 'h'
        let number := fun (c : Char) => ((g.value? c).map (inBase 10))
        let around := (number 'C').getD 0
        let lists := g.has 'l' || g.has 'L' || g.has 'q'
        let w : Showing := {
          negated := g.has 'v'
          parts := g.has 'o'
          silent := lists || g.has 'c'
          brief := lists
          numbered := g.has 'n'
          most := number 'm'
          before := if g.has 'o' then 0 else (number 'B').getD around
          after := if g.has 'o' then 0 else (number 'A').getD around }
        let mut found := false
        let mut good := true
        let mut later := false
        for t in inputs do
          let name := if t == ['-'] then "(standard input)".toList else t
          let label := fun (sep : Char) => if headed then name ++ [sep] else []
          let searched := fun (stream : Nat) => do
            if !w.silent && w.most != some 1 && (← isOutput stream) then
              return .error "input file is also the output"
            searchStream w x label later stream
          match ← withOperand t searched with
          | .error reason =>
              good := false
              if !g.has 's' then
                complainOf "grep" "" (if t == ['-'] then "(standard input)".toList else t) reason
          | .ok p =>
              later := p.later
              let hit := 0 < p.hits
              found := found || hit
              if g.has 'q' then
                if found then return 0
              else if g.has 'l' || g.has 'L' then
                if hit != g.has 'L' then writeLine name
              else if g.has 'c' then writeLine (label ':' ++ Text.ofNat p.hits)
        return if !good then 2 else if found then 0 else 1

/-! ## Calculating with words -/

/-- Why words are no expression. -/
inductive WordFault where
  | missing (after : Text)
  | unexpected (word : Text)
  | openBracket (after : Text)
  | wrongBracket (word : Text)
  | notInteger
  | divisionByZero
  | regular (f : RegularFault)
  deriving DecidableEq, Repr

/-- The fault in words. -/
def WordFault.message : WordFault → Text
  | .missing t => "syntax error: missing argument after ".toList ++ quoted t
  | .unexpected t => "syntax error: unexpected argument ".toList ++ quoted t
  | .openBracket t => "syntax error: expecting ')' after ".toList ++ quoted t
  | .wrongBracket t => "syntax error: expecting ')' instead of ".toList ++ quoted t
  | .notInteger => "non-integer argument".toList
  | .divisionByZero => "division by zero".toList
  | .regular f => f.message.toList

/-- The integer that a word is. -/
def wordInteger? (t : Text) : Option Int :=
  let (negative, digits) := match t with
    | '-' :: rest => (true, rest)
    | _ => (false, t)
  if digits.isEmpty || !digits.all Char.isDigit then none
  else
    let n : Int := inBase 10 digits
    some (if negative then -n else n)

/-- Whether a value counts as false: it is empty or zero. -/
def isNothing (t : Text) : Bool := t.isEmpty || wordInteger? t == some 0

/-- Reads the words that are left; the last one that was read stands before them. -/
abbrev Calculation (α : Type) := StateT (Text × List Text) (Except WordFault) α

namespace Calculation

/-- Takes the next word if it is one of some. -/
def takeOne? (words : List String) : Calculation (Option String) := do
  match (← get).2 with
  | [] => return none
  | w :: rest =>
      match words.find? (·.toList == w) with
      | some known =>
          set (w, rest)
          return some known
      | none => return none

/-- An integer operand. -/
def integer (t : Text) : Calculation Int :=
  match wordInteger? t with
  | some n => return n
  | none => throw .notInteger

/-- What of a text a regular expression matches at its beginning: the first group if there is
one, else the number of bytes. -/
def matched (subject pattern : Text) : Calculation Text := do
  let pattern := if pattern.head? == some '^' then pattern.drop 1 else pattern
  match Regular.withGroups { extended := false } pattern with
  | .error f => throw (.regular f)
  | .ok (r, groups) =>
      let s : Regular.Subject := ⟨subject.toArray, false⟩
      return match Regular.matchAt? r s 0 fun _ => true with
        | some m => if groups == 0 then Text.ofNat m.last else (m.group? s 1).getD []
        | none => if groups == 0 then ['0'] else []

/-- The value of an operator of two operands. -/
def operate (op : String) (a b : Text) : Calculation Text := do
  let truth := fun (r : Bool) => if r then ['1'] else ['0']
  let compared := fun (f : Ordering → Bool) =>
    match wordInteger? a, wordInteger? b with
    | some m, some n => truth (f (compare m n))
    | _, _ => truth (f (if a == b then .eq else if Text.before a b then .lt else .gt))
  match op with
  | "|" => return if !isNothing a then a else if !isNothing b then b else ['0']
  | "&" => return if isNothing a || isNothing b then ['0'] else a
  | "<" => return compared (· == .lt)
  | "<=" => return compared (· != .gt)
  | "=" => return compared (· == .eq)
  | "==" => return compared (· == .eq)
  | "!=" => return compared (· != .eq)
  | ">=" => return compared (· != .lt)
  | ">" => return compared (· == .gt)
  | ":" => matched a b
  | op => do
      let m ← integer a
      let n ← integer b
      if (op == "/" || op == "%") && n == 0 then throw .divisionByZero
      return Text.ofInt (match op with
        | "+" => m + n
        | "-" => m - n
        | "*" => m * n
        | "/" => m.tdiv n
        | _ => m.tmod n)

/-- The operators by rank, those that bind closest last. -/
def ranks : List (List String) := [["|"], ["&"], ["<", "<=", "=", "==", "!=", ">=", ">"],
  ["+", "-"], ["*", "/", "%"], [":"]]

mutual

/-- An expression of operators of a rank or higher; it is evaluated if it `counts`. -/
def level (fuel rank : Nat) (counts : Bool) : Calculation Text :=
  match fuel with
  | 0 => return []
  | fuel + 1 => do
      if ranks.length ≤ rank then operand fuel counts
      else
        let a ← level fuel (rank + 1) counts
        levelRest fuel rank counts a

/-- Reads on behind the first operand of operators of a rank. -/
def levelRest (fuel rank : Nat) (counts : Bool) (a : Text) : Calculation Text :=
  match fuel with
  | 0 => return []
  | fuel + 1 => do
      match ← takeOne? ((ranks[rank]?).getD []) with
      | none => return a
      | some op =>
          let needed := if op == "|" then isNothing a else if op == "&" then !isNothing a else true
          let b ← level fuel (rank + 1) (counts && needed)
          let r ← if counts && needed then operate op a b
            else pure (if op == "&" && counts then ['0'] else a)
          levelRest fuel rank counts r

/-- An operand: a word, an expression between brackets, or the value of a function. -/
def operand (fuel : Nat) (counts : Bool) : Calculation Text :=
  match fuel with
  | 0 => return []
  | fuel + 1 => do
      match ← get with
      | (last, []) => throw (.missing last)
      | (_, w :: rest) =>
          set (w, rest)
          match String.ofList w with
          | "(" =>
              let r ← level fuel 0 counts
              match ← get with
              | (last, []) => throw (.openBracket last)
              | (_, c :: after) =>
                  if c != [')'] then throw (.wrongBracket c)
                  set (c, after)
                  return r
          | ")" => throw (.unexpected w)
          | "+" =>
              match rest with
              | [] => throw (.missing w)
              | t :: after =>
                  set (t, after)
                  return t
          | "length" => return Text.ofNat (← operand fuel counts).length
          | "match" =>
              let a ← operand fuel counts
              let b ← operand fuel counts
              if counts then matched a b else return []
          | "index" =>
              let a ← operand fuel counts
              let bytes ← operand fuel counts
              return Text.ofNat (((a.findIdx? bytes.contains).map (· + 1)).getD 0)
          | "substr" =>
              let a ← operand fuel counts
              let first := wordInteger? (← operand fuel counts)
              let length := wordInteger? (← operand fuel counts)
              return match first, length with
                | some i, some n =>
                    if i ≤ 0 || n ≤ 0 then [] else (a.drop (i.toNat - 1)).take n.toNat
                | _, _ => []
          | _ => return w

end

/-- The value of the expression that words are. -/
def ofWords (words : List Text) : Except WordFault Text := do
  let (r, _, rest) ← (level (16 * words.length + 32) 0 true).run ([], words)
  match rest with
  | [] => .ok r
  | w :: _ => .error (.unexpected w)

end Calculation

/-- Prints the value of an expression. -/
def evaluateWords (words : List Text) : Action Nat := do
  match if words.head? == some ['-', '-'] then words.drop 1 else words with
  | [] => misused "expr" "missing operand".toList 2
  | words =>
      match Calculation.ofWords words with
      | .ok r =>
          writeLine r
          return if isNothing r then 1 else 0
      | .error f =>
          complainAs "expr" f.message
          return 2

end Runbook.Shell
