import Runbook.Shell.Pattern
import Runbook.Shell.Printing
import Runbook.Shell.Utility

set_option autoImplicit false

/-! # Utilities for text

The utilities that read files, or the standard input, and print what they make of their lines. In
all of them a dash as an operand stands for the standard input, and an operand that cannot be
read is complained about and passed over.
-/

namespace Runbook.Shell

/-! ## Parts of files -/

/-- Whether a stream leads to the file that is written, and not to its end. -/
def isLoop (stream : Nat) : Action Bool := do
  let s ← get
  let left := (s.stream? stream).any fun (_, f) =>
    match f.target with
    | .file names => f.offset < lengthOf s.system.tree names
    | _ => false
  return left && (← isOutput stream)

/-- How lines are shown with marks for what would not be seen. -/
structure Marking where
  ends : Bool
  tabs : Bool
  numbers : Bool
  /-- Whether empty lines have no number. -/
  sparing : Bool
  squeezes : Bool

/-- A line with its number and its marks. -/
def Marking.line (m : Marking) (count : Nat) (l : Text) : Text :=
  let ended := l.getLast? == some '\n'
  let body := withoutLineEnd l
  let digits := Text.ofNat count
  let head := if m.numbers && !(m.sparing && body.isEmpty && ended) then
      List.replicate (6 - digits.length) ' ' ++ digits ++ ['\t']
    else []
  let body := if m.tabs then body.flatMap fun c => if c == '\t' then ['^', 'I'] else [c] else body
  head ++ body ++ if !ended then [] else if m.ends then ['$', '\n'] else ['\n']

/-- Lines with their numbers and marks, given the number of the last line that has one and how many
empty lines stand before them. -/
def Marking.lines (m : Marking) : Nat → Nat → List Text → Text × Nat × Nat
  | count, blanks, [] => ([], count, blanks)
  | count, blanks, l :: rest =>
      let blanks := if l == ['\n'] then blanks + 1 else 0
      if m.squeezes && 1 < blanks then m.lines count blanks rest
      else
        let numbered := m.numbers && !(m.sparing && l == ['\n'])
        let count := if numbered then count + 1 else count
        let (more, after) := m.lines count blanks rest
        (m.line count l ++ more, after)

/-- Prints files one behind the other. -/
def concatenate : List Text → Action Nat :=
  let kinds : OptionKinds := ⟨"AbeEnstTuv", "", [("number", 'n'), ("number-nonblank", 'b'),
    ("squeeze-blank", 's'), ("show-ends", 'E'), ("show-tabs", 'T'), ("show-all", 'A')]⟩
  withOptions "cat" kinds 1 fun g => do
    let m : Marking := {
      ends := g.has 'E' || g.has 'A' || g.has 'e'
      tabs := g.has 'T' || g.has 'A' || g.has 't'
      numbers := g.has 'n' || g.has 'b'
      sparing := g.has 'b'
      squeezes := g.has 's' }
    let changes := m.ends || m.tabs || m.numbers || m.squeezes
    let mut good := true
    let mut place := (0, 0)
    for t in g.inputs do
      let start := place
      let r ← withOperand t fun stream => do
        if ← isLoop stream then return .error "input file is output file"
        if changes then
          overLines stream (fun (count, blanks) ls => do
            let (shown, next) := m.lines count blanks ls
            write shown
            return (next, none)) pieceBound [] start
        else
          let shown := fun (t : Text) => do
            write t
            return true
          return (← overPieces stream shown pieceBound).map fun _ => start
      match r with
      | .ok next => place := next
      | .error reason =>
          complainOf "cat" "" (named t) reason
          good := false
    return if good then 0 else 1

/-- A number of lines or bytes: what sign stands before it, and the number. -/
def amount? (t : Text) : Option (Char × Nat) :=
  let (mark, digits) := match t with
    | '-' :: rest => ('-', rest)
    | '+' :: rest => ('+', rest)
    | _ => (' ', t)
  let unit := digits.dropWhile Char.isDigit
  let scale := match String.ofList unit with
    | "" => some 1
    | "b" => some 512
    | "k" => some 1024
    | "K" => some 1024
    | "kB" => some 1000
    | "M" => some 1048576
    | _ => none
  let number := digits.takeWhile Char.isDigit
  if number.isEmpty then none else scale.map fun n => (mark, inBase 10 number * n)

/-- The words of a utility with a bare number as the first option made an option of its own. -/
def withNumber (words : List Text) : List Text :=
  match words with
  | ('-' :: c :: digits) :: rest =>
      if c.isDigit && digits.all Char.isDigit then ['-', 'n'] :: (c :: digits) :: rest else words
  | ('+' :: c :: digits) :: rest =>
      if c.isDigit && digits.all Char.isDigit then ['-', 'n'] :: ('+' :: c :: digits) :: rest
      else words
  | _ => words

/-- Prints parts of files, with headings if there are several. -/
def showParts (name : String) (g : Given) (part : Nat → Action (Except String Unit)) :
    Action Nat := do
  let operands := g.inputs
  let headed := match g.last? "qv" with
    | some 'q' => false
    | some _ => true
    | none => 1 < operands.length
  let mut good := true
  let mut later := false
  for t in operands do
    let heading := (if later then ['\n'] else []) ++ "==> ".toList ++
      (if t == ['-'] then "standard input".toList else t) ++ " <==\n".toList
    match ← openOperand t with
    | .error reason =>
        complainAs name ("cannot open ".toList ++ quoted t ++ " for reading: ".toList ++
          reason.toList)
        good := false
    | .ok stream =>
        if headed then write heading
        later := true
        if let .error reason ← part stream then
          complainOf name "error reading " (quoted t) reason
          good := false
        closeOperand stream
  return if good then 0 else 1

/-- The options of the two utilities that print one end of a file. -/
def endKinds : OptionKinds := ⟨"fqvz", "nc", [("lines", 'n'), ("bytes", 'c'), ("quiet", 'q'),
  ("silent", 'q'), ("verbose", 'v'), ("follow", 'f')]⟩

/-- How many bytes are read at once from something that cannot be gone back in. -/
def blockSize : Nat := 8192

/-- The first lines of a text, and how many line ends there are in it. -/
def firstLines : Nat → Text → Text × Nat
  | 0, _ => ([], 0)
  | _, [] => ([], 0)
  | n + 1, '\n' :: rest => let (t, k) := firstLines n rest; ('\n' :: t, k + 1)
  | n, c :: rest => let (t, k) := firstLines n rest; (c :: t, k)

/-- Prints so many lines of a stream. What has been read behind them is put back if the stream is a
file. -/
def headLines (stream : Nat) : Nat → Nat → Action (Except String Unit)
  | 0, _ => return .ok ()
  | _, 0 => return .ok ()
  | fuel + 1, n => do
      match ← peekStream stream none with
      | .error reason => return .error reason
      | .ok [] => return .ok ()
      | .ok t =>
          let returns := match ((← get).stream? stream).map (·.2) with
            | some { target := .file _, .. } => true
            | _ => false
          let block := if returns then t else t.take blockSize
          let (part, k) := firstLines n block
          advance stream (if returns then part.length else block.length)
          write part
          headLines stream fuel (n - k)

/-- Prints so many bytes of a stream. -/
def headBytes (stream : Nat) : Nat → Nat → Action (Except String Unit)
  | 0, _ => return .ok ()
  | _, 0 => return .ok ()
  | fuel + 1, n => do
      match ← takePiece stream (some n) with
      | .error reason => return .error reason
      | .ok [] => return .ok ()
      | .ok t =>
          write t
          headBytes stream fuel (n - t.length)

/-- Prints parts of files, where `part` is given what sign stands before a number, the number,
whether it counts bytes, and a stream. -/
def showEnds (name : String) (part : Char → Nat → Bool → Nat → Action (Except String Unit))
    (words : List Text) : Action Nat :=
  withOptions name endKinds 1 (fun g => do
    let bytes := g.last? "nc" == some 'c'
    let wanted := (if bytes then g.value? 'c' else g.value? 'n').getD ['1', '0']
    match amount? wanted with
    | none =>
        complainAs name ("invalid number of ".toList ++
          (if bytes then "bytes".toList else "lines".toList) ++ ": ".toList ++ quoted wanted)
        return 1
    | some (mark, n) => showParts name g (part mark n bytes)) (withNumber words)

/-- Prints what a function leaves of the bytes or lines of a stream. -/
def showRest (cut : {α : Type} → List α → List α) (bytes : Bool) (stream : Nat) :
    Action (Except String Unit) := do
  match ← takeAll stream with
  | .error reason => return .error reason
  | .ok t =>
      write (if bytes then cut t else (cut (fullLines t)).flatten)
      return .ok ()

/-- Prints the beginnings of files: so many lines, or all but so many. -/
def head : List Text → Action Nat :=
  showEnds "head" fun mark n bytes stream =>
    if mark == '-' then showRest (fun xs => xs.take (xs.length - n)) bytes stream
    else if bytes then headBytes stream pieceBound n
    else headLines stream pieceBound n

/-- Prints the ends of files: so many lines, or from such a line on. -/
def tail : List Text → Action Nat :=
  showEnds "tail" fun mark n =>
    showRest fun xs => if mark == '+' then xs.drop (n - 1) else xs.drop (xs.length - n)

/-- Prints the lines of files in reverse. -/
def reverseLines : List Text → Action Nat :=
  withOptions "tac" { plain := "br", valued := "s" } 1 fun g =>
    eachOf g.inputs 1 fun t => do
      match ← content t with
      | .ok bytes =>
          write (fullLines bytes).reverse.flatten
          return true
      | .error reason =>
          if reason == "Is a directory" then
            complainOf "tac" "" (named t) ("read error: " ++ reason)
          else complainAs "tac" ("failed to open ".toList ++ quoted t ++ " for reading: ".toList ++
            reason.toList)
          return false

/-- Prints the lines of files, each in reverse. -/
def reverseEach : List Text → Action Nat :=
  withOptions "rev" {} 1 fun g =>
    eachOf g.inputs 1 fun t => do
      let reversed := fun (l : Text) =>
        (withoutLineEnd l).reverse ++ if l.getLast? == some '\n' then ['\n'] else []
      match ← withOperand t fun stream =>
          overLines stream (fun () ls => do
            write (ls.flatMap reversed)
            return ((), none)) pieceBound [] () with
      | .ok () => return true
      | .error reason =>
          complainOf "rev" "cannot open " t reason
          return false

/-! ## Counting -/

/-- The number of words in a text. -/
def wordCount (t : Text) : Nat :=
  (t.foldl (fun (n, inside) c =>
    if isSpace c then (n, false) else (if inside then n else n + 1, true)) (0, false)).1

/-- The numbers of lines, words, bytes and characters of a text, and the length of its longest
line. -/
def counts (t : Text) : List (Char × Nat) :=
  let longest := (linesIn t).foldl (fun n l => max n l.length) 0
  [('l', t.count '\n'), ('w', wordCount t), ('m', t.length), ('c', t.length), ('L', longest)]

/-- How wide the numbers are printed. Files whose size is known in advance need as many places as
their sizes together. -/
def countWidth (operands : List Text) : Action Nat := do
  let mut total := 0
  let mut least := 1
  for t in operands do
    let isInput := t == ['-']
    let known := match (← get).stream? 0 with
      | some (_, { target := .file names, .. }) => some names
      | _ => none
    if isInput then
      match known with
      | some names => total := total + lengthOf (← tree) names
      | none => least := 7
    else
      match look? (← get) t with
      | some (.file bytes _) =>
          if (file? (← get) t).isNone then least := 7 else total := total + bytes.length
      | some .directory => least := 7
      | none => pure ()
  return max least (Text.ofNat total).length

/-- Prints the numbers that are asked for, and those of all files together. -/
def count : List Text → Action Nat :=
  let kinds : OptionKinds := ⟨"clLmw", "", [("lines", 'l'), ("words", 'w'), ("bytes", 'c'),
    ("chars", 'm'), ("max-line-length", 'L')]⟩
  withOptions "wc" kinds 1 fun g => do
    let wanted := fun (c : Char) =>
      if g.options.isEmpty then ['l', 'w', 'c'].contains c else g.has c
    let operands := g.inputs
    let one := (['l', 'w', 'm', 'c', 'L'].filter wanted).length == 1 && operands.length == 1
    let width ← if one then pure 1 else countWidth operands
    let row := fun (numbers : List (Char × Nat)) (name : Text) =>
      let shown := (numbers.filter fun n => wanted n.1).map fun n =>
        let ds := Text.ofNat n.2
        List.replicate (width - ds.length) ' ' ++ ds
      Text.join [' '] (shown ++ if name.isEmpty then [] else [name])
    let mut good := true
    let mut total := counts []
    for t in operands do
      let shown := if g.operands.isEmpty then [] else t
      match ← content t with
      | .ok bytes =>
          let numbers := counts bytes
          total := (total.zip numbers).map fun (a, b) =>
            (a.1, if a.1 == 'L' then max a.2 b.2 else a.2 + b.2)
          writeLine (row numbers shown)
      | .error reason =>
          complainOf "wc" "" (named t) reason
          if reason == "Is a directory" then writeLine (row (counts []) shown)
          good := false
    if 1 < operands.length then writeLine (row total "total".toList)
    return if good then 0 else 1

/-! ## Columns -/

/-- Places in a line that are asked for: numbers and ranges between commas. The last place of a
range may be missing. -/
abbrev Places := List (Nat × Option Nat)

/-- Reads places, or says what is wrong with them. -/
def readPlaces (fields : Bool) (t : Text) : Except Text Places :=
  (t.map (fun c => if c == ' ' || c == '\t' then ',' else c)).splitOn ',' |>.mapM fun item => do
    let (first, last) := Text.cutAt '-' item
    let bad := fun (_ : Unit) =>
      if fields then "invalid field value ".toList ++ quoted item
      else "invalid byte/character position ".toList ++ quoted item
    let number := fun (t : Text) => do
      if !t.all Char.isDigit then throw (bad ())
      let n := inBase 10 t
      if n == 0 && !t.isEmpty then
        throw (if fields then "fields are numbered from 1".toList
          else "byte/character positions are numbered from 1".toList)
      return n
    let a ← number first
    match last with
    | none => if first.isEmpty then throw (bad ()) else return (a, some a)
    | some last =>
        let b ← number last
        if first.isEmpty && last.isEmpty then throw "invalid range with no endpoint: -".toList
        if !last.isEmpty && b < a then throw "invalid decreasing range".toList
        return (max a 1, if last.isEmpty then none else some b)

/-- Whether a place is asked for. -/
def isAsked (places : Places) (negated : Bool) (n : Nat) : Bool :=
  (places.any fun (a, b) => a ≤ n && b.all (n ≤ ·)) != negated

/-- The members of a list at the places that are asked for. -/
def chosen {α : Type} (asked : Nat → Bool) (xs : List α) : List α :=
  ((xs.zip (List.range xs.length)).filter fun x => asked (x.2 + 1)).map (·.1)

/-- Prints parts of the lines of files. -/
def cut : List Text → Action Nat :=
  let kinds : OptionKinds := ⟨"snzC", "bcdfO", [("fields", 'f'), ("delimiter", 'd'),
    ("bytes", 'b'), ("characters", 'c'), ("only-delimited", 's'), ("complement", 'C'),
    ("output-delimiter", 'O')]⟩
  withOptions "cut" kinds 1 fun g => do
    let lists := g.options.filter fun o => ['b', 'c', 'f'].contains o.1
    match lists with
    | [] => misused "cut" "you must specify a list of bytes, characters, or fields".toList 1
    | _ :: _ :: _ => misused "cut" "only one list may be specified".toList 1
    | [(kind, list)] =>
        let fields := kind == 'f'
        if !fields && g.has 'd' then
          return ← misused "cut"
            "an input delimiter may be specified only when operating on fields".toList 1
        let separator := (g.value? 'd').getD ['\t']
        if separator.length > 1 then
          return ← misused "cut" "the delimiter must be a single character".toList 1
        match readPlaces fields list with
        | .error message => misused "cut" message 1
        | .ok places =>
            let c := separator.head?.getD '\x00'
            let asked := isAsked places (g.has 'C')
            let ofLine := fun (l : Text) =>
              if !fields then some (chosen asked l)
              else if !l.contains c then if g.has 's' then none else some l
              else some (Text.join ((g.value? 'O').getD [c]) (chosen asked (l.splitOn c)))
            return if ← mapLines "cut" ofLine g.inputs then 0 else 1

/-- The characters of a list of delimiters, some of which are written behind backslashes. -/
def delimiters : Text → List Text
  | '\\' :: 'n' :: rest => ['\n'] :: delimiters rest
  | '\\' :: 't' :: rest => ['\t'] :: delimiters rest
  | '\\' :: '0' :: rest => [] :: delimiters rest
  | '\\' :: '\\' :: rest => ['\\'] :: delimiters rest
  | c :: rest => [c] :: delimiters rest
  | [] => []

/-- Texts with delimiters between them, which are used in turn. -/
def interleave (ds : List Text) : Nat → List Text → Text
  | _, [] => []
  | _, [t] => t
  | n, t :: rest =>
      t ++ ((ds[n % ds.length]?).getD []) ++ interleave ds (n + 1) rest

/-- Prints the lines of files side by side. -/
def paste : List Text → Action Nat :=
  let kinds : OptionKinds := ⟨"sz", "d", [("serial", 's'), ("delimiters", 'd')]⟩
  withOptions "paste" kinds 1 fun g => do
    let ds := match g.value? 'd' with
      | some t => if t.isEmpty then [[]] else delimiters t
      | none => [['\t']]
    let inputs := g.inputs
    let shares := (inputs.filter (· == ['-'])).length
    let all ← if inputs.contains ['-'] then takeInput else pure []
    let mut columns : List (List Text) := []
    let mut turn := 0
    for t in inputs do
      if t == ['-'] then
        let ls := linesIn all
        let indexed := ls.zip (List.range ls.length)
        let here := turn
        columns := columns ++
          [if g.has 's' then if here == 0 then ls else []
            else (indexed.filter fun x => x.2 % shares == here).map (·.1)]
        turn := turn + 1
      else
        match ← content t with
        | .ok bytes => columns := columns ++ [linesIn bytes]
        | .error reason =>
            complainOf "paste" "" (named t) reason
            return 1
    if g.has 's' then
      write (Text.terminated (columns.map (interleave ds 0)))
    else
      let height := columns.foldl (fun n c => max n c.length) 0
      write (Text.terminated ((List.range height).map fun i =>
        interleave ds 0 (columns.map fun column => column.getD i [])))
    return 0

/-- Numbers the lines of files. -/
def numberLines : List Text → Action Nat :=
  withOptions "nl" { plain := "p", valued := "bdfhilnsvw" } 1 fun g => do
    let number := fun (c : Char) (d : Nat) => ((g.value? c).map (inBase 10)).getD d
    let width := number 'w' 6
    let separator := (g.value? 's').getD ['\t']
    let format := String.ofList ((g.value? 'n').getD ['r', 'n'])
    let label := fun (n : Nat) =>
      let ds := Text.ofNat n
      let gap := width - ds.length
      match format with
      | "ln" => ds ++ List.replicate gap ' '
      | "rz" => List.replicate gap '0' ++ ds
      | _ => List.replicate gap ' ' ++ ds
    let counts := fun (l : Text) =>
      !l.isEmpty && g.value? 'b' != some ['n'] || g.value? 'b' == some ['a']
    let (_, good) ← overInputs "nl" "" (fun n ls => do
      let (n, shown) := (ls.map withoutLineEnd).foldl (fun (n, shown) l =>
        if counts l then (n + number 'i' 1, (label n ++ separator ++ l) :: shown)
        else (n, (List.replicate (width + separator.length) ' ' ++ l) :: shown)) (n, [])
      write (Text.terminated shown.reverse)
      return n) g.inputs (number 'v' 1)
    return if good then 0 else 1

/-- The pieces of a line that are not longer than a width, cut behind blanks where possible if
`blanks`. -/
def foldLine (width : Nat) (blanks : Bool) : Nat → Text → List Text
  | 0, t => [t]
  | fuel + 1, t =>
      if t.length ≤ width then [t]
      else
        let piece := t.take width
        let kept := (piece.reverse.dropWhile fun c => c != ' ' && c != '\t').reverse
        let piece := if blanks && !kept.isEmpty then kept else piece
        piece :: foldLine width blanks fuel (t.drop piece.length)

/-- Breaks the lines of files. -/
def foldLines : List Text → Action Nat :=
  let kinds : OptionKinds := ⟨"bs", "w", [("width", 'w'), ("spaces", 's'), ("bytes", 'b')]⟩
  withOptions "fold" kinds 1 fun g => do
    let wanted := (g.value? 'w').getD ['8', '0']
    let width := inBase 10 wanted
    if !wanted.all Char.isDigit || width == 0 then
      complainAs "fold" ("invalid number of columns: ".toList ++ quoted wanted)
      return 1
    let folded := fun (l : Text) =>
      let body := withoutLineEnd l
      Text.join ['\n'] (foldLine width (g.has 's') body.length body) ++
        if l.getLast? == some '\n' then ['\n'] else []
    let (_, good) ← overInputs "fold" "" (fun () ls => do
      write (ls.flatMap folded)) g.inputs ()
    return if good then 0 else 1

/-! ## Characters -/

/-- Reads the escape behind a backslash in a set of bytes. -/
def setEscape (t : Text) : Char × Text :=
  match t with
  | [] => ('\\', [])
  | c :: rest =>
      match if c == 'e' then none else controlCode? c with
      | some b => (b, rest)
      | none =>
          let (digits, after) := takeOctal 3 t
          if digits.isEmpty then (c, rest) else (byteOf (inBase 8 digits), after)

/-- An item of a set of bytes: bytes, or one that is repeated to fill the set up. -/
inductive SetItem where
  | bytes (t : Text)
  | filler (c : Char)
  deriving DecidableEq, Repr

/-- All bytes. -/
def allBytes : Text := (List.range 256).map Char.ofNat

/-- The classes that a set of bytes can name. -/
def classNames : List String := ["alnum", "alpha", "blank", "cntrl", "digit", "graph", "lower",
  "print", "punct", "space", "upper", "xdigit"]

/-- Reads the items of a set of bytes. -/
def setItems : Nat → Text → Except Text (List SetItem)
  | 0, _ => .ok []
  | _, [] => .ok []
  | fuel + 1, c :: rest =>
      let inside := fun (_ : Unit) => rest.drop 1
      match c, rest with
      | '[', ':' :: more =>
          let name := more.takeWhile Char.isAlpha
          if (more.drop name.length).take 2 == [':', ']'] then
            if classNames.contains (String.ofList name) then do
              let after ← setItems fuel (more.drop (name.length + 2))
              .ok (.bytes (allBytes.filter (isOfKind name)) :: after)
            else .error ("invalid character class ".toList ++ quoted name)
          else do .ok (.bytes ['['] :: (← setItems fuel rest))
      | '[', '=' :: d :: '=' :: ']' :: more => do .ok (.bytes [d] :: (← setItems fuel more))
      | _, _ =>
          let d := rest.head?.getD ' '
          let repeats := c == '[' && (inside ()).head? == some '*'
          let digits := ((inside ()).drop 1).takeWhile Char.isDigit
          let after := (inside ()).drop (digits.length + 1)
          if repeats && after.head? == some ']' then do
            let n := inBase (if digits.head? == some '0' then 8 else 10) digits
            let more ← setItems fuel (after.drop 1)
            .ok ((if n == 0 then .filler d else .bytes (List.replicate n d)) :: more)
          else
            let (first, rest) := if c == '\\' then setEscape rest else (c, rest)
            match rest with
            | '-' :: d :: more =>
                let (last, more) := if d == '\\' then setEscape more else (d, more)
                if last.toNat < first.toNat then
                  .error ("range-endpoints of '".toList ++ [first, '-', last] ++
                    "' are in reverse collating sequence order".toList)
                else do
                  let range := allBytes.filter fun c =>
                    first.toNat ≤ c.toNat && c.toNat ≤ last.toNat
                  .ok (.bytes range :: (← setItems fuel more))
            | _ => do .ok (.bytes [first] :: (← setItems fuel rest))

/-- The bytes of items, filled up to a number. -/
def setBytes (items : List SetItem) (wanted : Nat) : Text :=
  let known := items.foldl (fun n i => match i with
    | .bytes t => n + t.length
    | .filler _ => n) 0
  items.flatMap fun i =>
    match i with
    | .bytes t => t
    | .filler c => List.replicate (wanted - known) c

/-- A text without the repetitions of bytes of a set, given the byte before it. -/
def squeeze (set : Char → Bool) : Option Char → Text → Text
  | _, [] => []
  | last, c :: rest =>
      if set c && last == some c then squeeze set last rest else c :: squeeze set (some c) rest

/-- Prints what becomes of the standard input, piece by piece, without the repetitions of bytes of
a set behind `last`. -/
def squeezeInput (map : Text → Text) (set : Char → Bool) :
    Nat → Option Char → Action (Except String Unit)
  | 0, _ => return .ok ()
  | fuel + 1, last => do
      match ← takePiece 0 none with
      | .error reason => return .error reason
      | .ok [] => return .ok ()
      | .ok t =>
          let t := map t
          write (squeeze set last t)
          if (← self).broken.isSome then return .ok ()
          squeezeInput map set fuel (t.getLast? <|> last)

/-- Maps, deletes or squeezes bytes of the standard input. -/
def mapBytes : List Text → Action Nat :=
  let kinds : OptionKinds := ⟨"cCdst", "", [("complement", 'c'), ("delete", 'd'),
    ("squeeze-repeats", 's'), ("truncate-set1", 't')]⟩
  withOptions "tr" kinds 1 fun g => do
    let deletes := g.has 'd'
    let squeezes := g.has 's'
    let least := if deletes == squeezes then 2 else 1
    let most := if deletes && !squeezes then 1 else 2
    let usage := fun (message note : Text) => do
      complainAs "tr" message
      if !note.isEmpty then complain note
      complain "Try 'tr --help' for more information.".toList
      return 1
    if g.operands.length < least then
      match g.operands with
      | [] => return ← usage "missing operand".toList []
      | t :: _ =>
          return ← usage ("missing operand after ".toList ++ quoted t)
            (if squeezes then
              "Two strings must be given when both deleting and squeezing repeats.".toList
            else "Two strings must be given when translating.".toList)
    if most < g.operands.length then
      return ← usage ("extra operand ".toList ++ quoted ((g.operands.drop most).head?.getD []))
        (if most == 1 then
          "Only one string may be given when deleting without squeezing repeats.".toList
        else [])
    let first := g.operands.head?.getD []
    let second := (g.operands.drop 1).head?
    match setItems (first.length + 1) first,
        setItems ((second.getD []).length + 1) (second.getD []) with
    | .error message, _ => complainAs "tr" message; return 1
    | _, .error message => complainAs "tr" message; return 1
    | .ok a, .ok b =>
        let a := setBytes a 0
        let a := if g.has 'c' || g.has 'C' then allBytes.filter (!a.contains ·) else a
        let b := setBytes b a.length
        if second.isSome && !deletes && b.isEmpty && !a.isEmpty && !g.has 't' then
          complainAs "tr" "when not truncating set1, string2 must be non-empty".toList
          return 1
        let map := fun (input : Text) =>
          if deletes then input.filter (!a.contains ·)
          else if second.isNone then input
          else
            let a := if g.has 't' then a.take b.length else a
            let filled := b ++ List.replicate (a.length - b.length) (b.getLast?.getD ' ')
            let pairs := (a.zip filled).reverse
            input.map fun c => ((pairs.find? (·.1 == c)).map (·.2)).getD c
        let set := if second.isSome then b else a
        match ← squeezeInput map (fun c => squeezes && set.contains c) pieceBound none with
        | .ok () => return 0
        | .error reason =>
            complainAs "tr" ("read error: ".toList ++ reason.toList)
            return 1

/-! ## Order -/

/-- A part of a line by which lines are ordered: where it begins and ends, and how it is
compared. -/
structure Key where
  firstField : Nat
  firstByte : Nat := 0
  /-- The number of fields up to its end, and the number of bytes of the field behind these; none
  for the end of the line. -/
  last : Option (Nat × Nat) := none
  letters : Text := []

/-- Passes over fields. Without a separator a field is blanks and what follows them. -/
def afterFields (separator : Option Char) : Nat → Text → Text
  | 0, t => t
  | n + 1, t =>
      let rest := match separator with
        | some c => (t.dropWhile (· != c)).drop 1
        | none => (t.dropWhile fun c => c == ' ' || c == '\t').dropWhile
            fun c => c != ' ' && c != '\t'
      afterFields separator n rest

/-- The part of a line that a key stands for. -/
def Key.part (k : Key) (separator : Option Char) (line : Text) : Text :=
  let isBlank := fun (c : Char) => c == ' ' || c == '\t'
  let start := afterFields separator k.firstField line
  let start := (if k.letters.contains 'b' then start.dropWhile isBlank else start).drop k.firstByte
  match k.last with
  | none => start
  | some (fields, bytes) =>
      let rest :=
        if bytes != 0 then (afterFields separator fields line).drop bytes
        else
          let before := afterFields separator fields line
          match separator with
          | some c => before.dropWhile (· != c)
          | none => (before.dropWhile isBlank).dropWhile (!isBlank ·)
      start.take (start.length - rest.length)

/-- The number that a text begins with, in units of the last of so many decimal places. -/
def leadingNumber (places : Nat) (t : Text) : Int :=
  let t := t.dropWhile fun c => c == ' ' || c == '\t'
  let (negative, body) := match t with
    | '-' :: rest => (true, rest)
    | _ => (false, t)
  let (digits, fraction, _) := takeDecimal 10 body
  let n : Int := inBase 10 (digits ++ List.replicate (places - fraction) '0')
  if negative then -n else n

/-- How two texts compare under the letters of a key. -/
def compareAs (letters : Text) (a b : Text) : Ordering :=
  let order :=
    if letters.contains 'n' || letters.contains 'g' || letters.contains 'h' then
      let places := max a.length b.length
      compare (leadingNumber places a) (leadingNumber places b)
    else
      let clean := fun (t : Text) =>
        let t := if letters.contains 'b' then t.dropWhile (fun c => c == ' ' || c == '\t') else t
        let t := if letters.contains 'd' then
            t.filter fun c => c.isAlphanum || c == ' ' || c == '\t'
          else t
        let t := if letters.contains 'i' then t.filter (isOfKind "print".toList) else t
        if letters.contains 'f' then t.map Char.toUpper else t
      let a := clean a
      let b := clean b
      if a == b then .eq else if Text.before a b then .lt else .gt
  if letters.contains 'r' then order.swap else order

/-- Reads a key, or says what is wrong with it. -/
def readKey (t : Text) : Except Text Key := do
  let whole := t
  let number := fun (t : Text) (place : String) => do
    let ds := t.takeWhile Char.isDigit
    if ds.isEmpty then
      throw ("invalid number at ".toList ++ place.toList ++ ": invalid count at start of ".toList ++
        quoted t)
    return (inBase 10 ds, t.drop ds.length)
  let (field, rest) ← number t "field start"
  if field == 0 then
    throw ("field number is zero: invalid field specification ".toList ++ quoted whole)
  let (byte, rest) ← match rest with
    | '.' :: more => number more "after '.'"
    | _ => pure (1, rest)
  let letters := rest.takeWhile Char.isAlpha
  match rest.drop letters.length with
  | [] => return { firstField := field - 1, firstByte := byte - 1, letters }
  | ',' :: more =>
      let (lastField, rest) ← number more "after ','"
      let (lastByte, rest) ← match rest with
        | '.' :: more => number more "after '.'"
        | _ => pure (0, rest)
      return {
        firstField := field - 1
        firstByte := byte - 1
        last := some (lastField - 1, lastByte)
        letters := letters ++ rest.takeWhile Char.isAlpha }
  | _ =>
      throw ("stray character in field spec: invalid field specification ".toList ++ quoted whole)

/-- Keeps the first of lines that are the same under a comparison, which stand together. -/
def withoutRepeats (same : Text → Text → Bool) : List Text → List Text
  | [] => []
  | l :: rest =>
      let more := withoutRepeats same rest
      match more with
      | m :: after => if same l m then l :: after else l :: more
      | [] => [l]

/-- Prints the lines of files in order. -/
def sort : List Text → Action Nat :=
  let kinds : OptionKinds := ⟨"bcCdfghiMmnrRsuVz", "kotST", [("reverse", 'r'),
    ("numeric-sort", 'n'), ("unique", 'u'), ("key", 'k'), ("output", 'o'), ("stable", 's'),
    ("field-separator", 't'), ("ignore-case", 'f'), ("check", 'c')]⟩
  withOptions "sort" kinds 2 fun g => do
    let given := (g.options.map (·.1)).filter "bdfgHhinr".toList.contains
    match (g.values 'k').mapM readKey with
    | .error message =>
        complainAs "sort" message
        return 2
    | .ok keys =>
        let separator := (g.value? 't').bind fun t =>
          if t == ['\\', '0'] then some '\x00' else t.head?
        let keys := if keys.isEmpty then [{ firstField := 0, letters := given }]
          else keys.map fun k => if k.letters.isEmpty then { k with letters := given } else k
        let byKeys := fun (a b : Text) =>
          keys.foldl (fun (o : Ordering) k =>
            o.then (compareAs k.letters (k.part separator a) (k.part separator b))) .eq
        let order := fun (a b : Text) =>
          let o := byKeys a b
          if o != .eq || g.has 's' || g.has 'u' then o
          else compareAs (given.filter (· == 'r')) a b
        let mut texts : List Text := []
        for t in g.inputs do
          match ← content t with
          | .ok bytes => texts := texts ++ [bytes]
          | .error reason =>
              let what := if reason == "Is a directory" then "read failed" else "cannot read"
              complainOf "sort" (what ++ ": ") (named t) reason
              return 2
        let ls := texts.flatMap linesIn
        if g.has 'c' || g.has 'C' then
          let pairs := ls.zip (ls.drop 1)
          let bad := fun (p : Text × Text) =>
            let o := order p.1 p.2
            o == .gt || (g.has 'u' && o == .eq)
          match pairs.findIdx? bad with
          | none => return 0
          | some i =>
              if g.has 'c' then
                complainAs "sort" (g.inputs.head?.getD [] ++ ':' :: Text.ofNat (i + 2) ++
                  ": disorder: ".toList ++ (pairs[i]?.map (·.2)).getD [])
              return 1
        let sorted := ls.mergeSort fun a b => order a b != .gt
        let shown := if g.has 'u' then withoutRepeats (fun a b => byKeys a b == .eq) sorted
          else sorted
        match g.value? 'o' with
        | none =>
            write (Text.terminated shown)
            return 0
        | some file =>
            match ← store file (Text.terminated shown) with
            | none => return 0
            | some reason =>
                complainOf "sort" "open failed: " (named file) reason
                return 2

/-- Groups of lines that stand together and are the same. -/
def runsOf (same : Text → Text → Bool) : List Text → List (List Text)
  | [] => []
  | l :: rest =>
      match runsOf same rest with
      | (m :: ms) :: more => if same l m then (l :: m :: ms) :: more else [l] :: (m :: ms) :: more
      | more => [l] :: more

/-- Prints the lines of a file, those that stand together and are the same once. -/
def unique : List Text → Action Nat :=
  let kinds : OptionKinds := ⟨"cdDiuz", "fsw", [
    ("count", 'c'), ("repeated", 'd'), ("unique", 'u'),
    ("ignore-case", 'i'), ("skip-fields", 'f'), ("skip-chars", 's'), ("check-chars", 'w')]⟩
  withOptions "uniq" kinds 1 fun g => do
    let number := fun (c : Char) => (g.value? c).map (inBase 10)
    let key := fun (l : Text) =>
      let t := (afterFields none ((number 'f').getD 0) l).drop ((number 's').getD 0)
      let t := match number 'w' with
        | some n => t.take n
        | none => t
      if g.has 'i' then t.map Char.toLower else t
    let input := g.operands.head?.getD ['-']
    match ← content input with
    | .error reason =>
        if reason == "Is a directory" then complainOf "uniq" "error reading " (quoted input) reason
        else complainOf "uniq" "" (named input) reason
        return 1
    | .ok bytes =>
        let runs := runsOf (fun a b => key a == key b) (linesIn bytes)
        let kept := runs.filter fun r =>
          !((g.has 'd' || g.has 'D') && r.length == 1) && !(g.has 'u' && r.length != 1)
        let shown := kept.flatMap fun r =>
          if g.has 'D' then r
          else if g.has 'c' then
            let ds := Text.ofNat r.length
            [List.replicate (7 - ds.length) ' ' ++ ds ++ ' ' :: r.head?.getD []]
          else r.take 1
        match g.operands.drop 1 with
        | file :: _ =>
            match ← store file (Text.terminated shown) with
            | none => return 0
            | some reason =>
                complainOf "uniq" "" (named file) reason
                return 1
        | [] =>
            write (Text.terminated shown)
            return 0

/-! ## Comparing -/

/-- The lines of two ordered lists with the column that each belongs to: only in the first, only
in the second, in both. -/
def columnsOf : Nat → List Text → List Text → List (Nat × Text)
  | 0, _, _ => []
  | _, [], bs => bs.map (2, ·)
  | _, as, [] => as.map (1, ·)
  | fuel + 1, a :: as, b :: bs =>
      if a == b then (3, a) :: columnsOf fuel as bs
      else if Text.before a b then (1, a) :: columnsOf fuel as (b :: bs)
      else (2, b) :: columnsOf fuel (a :: as) bs

/-- Prints in columns which lines two ordered files have. -/
def compareLines : List Text → Action Nat :=
  withOptions "comm" { plain := "123z" } 1 fun g => do
    match g.operands with
    | [a, b] =>
        match ← content a, ← content b with
        | .ok s, .ok t =>
            let as := linesIn s
            let bs := linesIn t
            let hides := fun (n : Nat) => g.has (Nat.digitChar n)
            let rows := (columnsOf (as.length + bs.length + 1) as bs).filter (!hides ·.1)
            let gap := fun (n : Nat) =>
              List.replicate (((List.range n).filter fun i => i != 0 && !hides i).length) '\t'
            write (Text.terminated (rows.map fun (n, l) => gap n ++ l))
            return 0
        | .error reason, _ =>
            complainOf "comm" "" (named a) reason
            return 1
        | _, .error reason =>
            complainOf "comm" "" (named b) reason
            return 1
    | [] => misused "comm" "missing operand".toList 1
    | [a] => misused "comm" ("missing operand after ".toList ++ quoted a) 1
    | _ :: _ :: c :: _ => misused "comm" ("extra operand ".toList ++ quoted c) 1

/-- Tells where two files begin to differ. -/
def compareFiles : List Text → Action Nat :=
  withOptions "cmp" ⟨"bls", "in", [("silent", 's'), ("quiet", 's')]⟩ 2 fun g => do
    match g.operands with
    | [] => misused "cmp" "missing operand after 'cmp'".toList 2
    | a :: rest =>
        let b := rest.head?.getD ['-']
        match ← content a, ← content b with
        | .ok s, .ok t =>
            let n := ((s.zip t).takeWhile fun (x, y) => x == y).length
            let line := Text.ofNat ((s.take n).count '\n' + 1)
            if n < s.length && n < t.length then
              if !g.has 's' then
                writeLine (a ++ ' ' :: b ++ " differ: char ".toList ++ Text.ofNat (n + 1) ++
                  ", line ".toList ++ line)
              return 1
            if s.length == t.length then return 0
            let shorter := if s.length < t.length then a else b
            if !g.has 's' then
              if n == 0 then
                complainAs "cmp" ("EOF on ".toList ++ shorter ++ " which is empty".toList)
              else
                let ended := (s.take n).getLast? == some '\n'
                let line := if ended then ", line ".toList ++ Text.ofNat ((s.take n).count '\n')
                  else ", in line ".toList ++ line
                complainAs "cmp" ("EOF on ".toList ++ shorter ++ " after byte ".toList ++
                  Text.ofNat n ++ line)
            return 1
        | .error reason, _ =>
            if !g.has 's' then complainOf "cmp" "" a reason
            return 2
        | _, .error reason =>
            if !g.has 's' then complainOf "cmp" "" b reason
            return 2

/-! ## Making text -/

/-- Prints the standard input and writes it to files. -/
def duplicate : List Text → Action Nat :=
  withOptions "tee" ⟨"aip", "", [("append", 'a'), ("ignore-interrupts", 'i')]⟩ 1 fun g => do
    let mut status := 0
    let mut streams : List (Nat × Text) := []
    for t in g.operands do
      match ← openToWrite { keeps := g.has 'a', appends := g.has 'a' } t with
      | .ok file =>
          let stream := operandStream + streams.length
          lead stream (some file)
          streams := streams ++ [(stream, t)]
      | .error reason =>
          complainOf "tee" "" (named t) reason
          status := 1
    let outputs := streams
    let r ← overPieces 0 (fun piece => do
      write piece
      for (stream, t) in outputs do
        if let some reason ← writeTo? stream piece then
          complainOf "tee" "" (named t) reason
          lead stream none
      return true) pieceBound
    let s ← get
    if streams.any fun (stream, _) => (s.stream? stream).isNone then status := 1
    if let .error reason := r then
      complainAs "tee" ("read error: ".toList ++ reason.toList)
      status := 1
    return status

/-- A decimal number: its value in units of its last place, and how many decimal places it
has. -/
def decimal? (t : Text) : Option (Int × Nat) :=
  let (negative, body) := takeSign t
  let (digits, places, rest) := takeDecimal 10 body
  if digits.isEmpty || !rest.isEmpty then none
  else
    let n : Int := inBase 10 digits
    some (if negative then -n else n, places)

/-- The text of a number in units of the last of so many decimal places, at least `width` long. -/
def decimalText (places width : Nat) (n : Int) : Text :=
  let ds := Text.ofNat n.natAbs
  let ds := List.replicate (places + 1 - ds.length) '0' ++ ds
  let whole := ds.take (ds.length - places)
  let body := if places == 0 then whole else whole ++ '.' :: ds.drop (ds.length - places)
  let sign := if n < 0 then ['-'] else []
  sign ++ List.replicate (width - sign.length - body.length) '0' ++ body

/-- The numbers from one to another, in steps. -/
def stepsFrom (step last : Int) : Nat → Int → List Int
  | 0, _ => []
  | fuel + 1, n =>
      if (0 < step && last < n) || (step < 0 && n < last) then []
      else n :: stepsFrom step last fuel (n + step)

/-- Prints numbers. -/
def sequence (words : List Text) : Action Nat :=
  let isNumber := fun (t : Text) => match t with
    | '-' :: c :: _ => c.isDigit || c == '.'
    | _ => false
  -- A negative number is no option.
  let split := match words.findIdx? isNumber with
    | some i => if words.take i |>.contains ['-', '-'] then words
        else words.take i ++ ['-', '-'] :: words.drop i
    | none => words
  withOptions "seq" ⟨"w", "sf", [("separator", 's'), ("equal-width", 'w'), ("format", 'f')]⟩ 1
    (fun g => do
      let invalid := fun (t : Text) =>
        misused "seq" ("invalid floating point argument: ".toList ++ quoted t) 1
      let bounds := match g.operands with
        | [b] => some (['1'], ['1'], b)
        | [a, b] => some (a, ['1'], b)
        | [a, s, b] => some (a, s, b)
        | _ => none
      match bounds, g.operands with
      | none, [] => misused "seq" "missing operand".toList 1
      | none, _ =>
          misused "seq" ("extra operand ".toList ++ quoted ((g.operands.drop 3).head?.getD [])) 1
      | some (a, s, b), _ =>
          match decimal? a, decimal? s, decimal? b with
          | none, _, _ => invalid a
          | _, none, _ => invalid s
          | _, _, none => invalid b
          | some (first, p), some (step, q), some (last, r) =>
              if step == 0 then
                return ← misused "seq" ("invalid Zero increment value: ".toList ++ quoted s) 1
              let places := max p q
              let finest := max places r
              let scaled := fun (n : Int) (known : Nat) => n * (Double.tenTo (finest - known) : Int)
              let down := fun (n : Int) => n / (Double.tenTo ((finest - places : Nat) : Int) : Int)
              let numbers := (stepsFrom (scaled step q) (scaled last r) 100000 (scaled first p)).map
                down
              let width := if g.has 'w' then
                  numbers.foldl (fun w n => max w (decimalText places 0 n).length)
                    (decimalText places 0 (down (scaled last r))).length
                else 0
              let shown := match g.value? 'f' with
                | none => numbers.map (decimalText places width)
                | some format => numbers.map fun n =>
                    (formatOnce (format.length + 1) format
                      { arguments := [decimalText places 0 n] }).shown
              if !shown.isEmpty then
                writeLine (Text.join ((g.value? 's').getD ['\n']) shown)
              return 0) split

/-- Prints a text again and again until it cannot be printed. -/
def repeatText (t : Text) : Nat → Action Unit
  | 0 => return
  | fuel + 1 => do
      write t
      pass
      if (← self).broken.isNone then repeatText t fuel

/-- Prints the same line again and again. -/
def yes (words : List Text) : Action Nat := do
  let words := if words.head? == some ['-', '-'] then words.drop 1 else words
  let line := if words.isEmpty then ['y'] else Text.join [' '] words
  repeatText (Text.terminated (List.replicate 1024 line)) pieceBound
  return 1

end Runbook.Shell
