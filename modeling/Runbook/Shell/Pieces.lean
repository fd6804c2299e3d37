import Runbook.Shell.Files
import Runbook.Shell.Filters

set_option autoImplicit false

/-! # Sizes and pieces of files

Making files longer or shorter, cutting them into several, copying a part of one, and making new
files under names that nothing has.
-/

namespace Runbook.Shell

/-! ## Sizes -/

/-- The number of bytes that a text denotes, with the letter of a unit behind it. -/
def scaledCount? (t : Text) : Option Nat :=
  let digits := t.takeWhile Char.isDigit
  let body := t.drop digits.length
  let (letter, rest) := match body with
    | c :: rest => (c, rest)
    | [] => (' ', [])
  let power := match letter with
    | ' ' => some 0
    | 'K' => some 1
    | 'k' => some 1
    | 'M' => some 2
    | 'G' => some 3
    | 'T' => some 4
    | _ => none
  let base := match rest with
    | [] => some 1024
    | ['B'] => some 1000
    | ['i', 'B'] => some 1024
    | _ => none
  let number := if digits.isEmpty then 1 else inBase 10 digits
  if body == ['b'] then some (number * 512)
  else if body == ['c'] then some number
  else if digits.isEmpty && body.isEmpty then none
  else power.bind fun p => base.map fun b => number * Nat.pow b p

/-- The size that is asked for, given the one there is; the sign in front says how they belong
together. -/
def wantedSize? (sign : Option Char) (n old : Nat) : Option Nat :=
  match sign with
  | none => some n
  | some '+' => some (old + n)
  | some '-' => some (old - n)
  | some '<' => some (min old n)
  | some '>' => some (max old n)
  | some '/' => if n == 0 then none else some (old / n * n)
  | some _ => if n == 0 then none else some ((old + n - 1) / n * n)

/-- Makes files longer or shorter. -/
def setSizes : List Text → Action Nat :=
  let kinds : OptionKinds := ⟨"co", "sr", [("no-create", 'c'), ("io-blocks", 'o'), ("size", 's'),
    ("reference", 'r')]⟩
  withOptions "truncate" kinds 1 fun g => do
    let t := (g.value? 's').getD []
    let sign := t.head?.filter "+-<>/%".toList.contains
    let digits := if sign.isSome then t.drop 1 else t
    match g.value? 's', g.value? 'r', scaledCount? digits with
    | none, none, _ =>
        misused "truncate" "you must specify either '--size' or '--reference'".toList 1
    | some _, _, none =>
        complainAs "truncate" ("Invalid number: ".toList ++ quoted digits)
        return 1
    | size, model, n =>
        if model.isSome && size.isSome && sign.isNone then
          return ← misused "truncate"
            "you must specify a relative '--size' with '--reference'".toList 1
        if g.operands.isEmpty then return ← misused "truncate" "missing file operand".toList 1
        let s ← get
        let like := model.map fun t => (t, (file? s t).map List.length)
        if let some (t, none) := like then
          if !isDirectory s t then
            complainOf "truncate" "cannot stat " (quoted t) (absence s t)
            return 1
        eachOf g.operands 1 fun t => do
          let s ← get
          if g.has 'c' && (look? s t).isNone then return true
          match ← openToWrite { keeps := true } t with
          | .error reason =>
              complainOf "truncate" "cannot open " (quoted t ++ " for writing".toList) reason
              return false
          | .ok _ =>
              let s ← get
              let bytes := (file? s t).getD []
              let old := (like.bind (·.2)).getD bytes.length
              let new := match size, n with
                | some _, some n => wantedSize? sign n old
                | _, _ => some old
              match new, reached s t with
              | some new, some names =>
                  let made := bytes.take new ++ List.replicate (new - bytes.length) 0
                  if let some (.file _ runnable) := s.system.tree.entry? names then
                    modifySystem (·.setEntry names (.file made runnable))
                  return true
              | none, _ =>
                  complainAs "truncate" "division by zero".toList
                  return false
              | _, none => return true

/-! ## Pieces -/

/-- The letters of one piece among others, so many of them. -/
def pieceLetters (alphabet : Text) : Nat → Nat → Text
  | 0, _ => []
  | count + 1, n =>
      pieceLetters alphabet count (n / alphabet.length) ++
        ((alphabet[n % alphabet.length]?).toList)

/-- The ending of the name of a piece. When all of a length are used but those that begin with the
last letter, longer ones follow. -/
def pieceEnding (alphabet : Text) : Nat → Nat → Nat → Text
  | 0, _, _ => []
  | fuel + 1, length, n =>
      let size := alphabet.length
      let here := (size - 1) * Nat.pow size (length - 1)
      if n < here then pieceLetters alphabet length n
      else ((alphabet.getLast?).toList) ++ pieceEnding alphabet fuel (length + 1) (n - here)

/-- The lines of a text with so many of them together. -/
def lineGroups (separator : Char) (count : Nat) (t : Text) : List Text :=
  let swapped := fun (c : Char) =>
    if c == separator then '\n' else if c == '\n' then separator else c
  let ls := fullLines (t.map swapped)
  (piecesOfSize count (ls.length + 1) ls).map fun g => g.flatten.map swapped

/-- Groups of lines none of which has more bytes than a number, if that is possible. -/
def boundedGroups (size : Nat) : Nat → List Text → Text → List Text
  | 0, _, _ => []
  | _, [], done => if done.isEmpty then [] else [done]
  | fuel + 1, l :: rest, done =>
      if done.length + l.length ≤ size then boundedGroups size fuel rest (done ++ l)
      else if !done.isEmpty then done :: boundedGroups size fuel (l :: rest) []
      else l.take size :: boundedGroups size fuel (l.drop size :: rest) []

/-- A text in so many pieces; those of lines end where a line does. -/
def equalPieces (kind : Char) (count : Nat) (t : Text) : List Text :=
  let size := t.length
  let bound := fun (i : Nat) => size / count * i + min i (size % count)
  match kind with
  | 'r' =>
      let ls := (fullLines t).zipIdx
      (List.range count).map fun i => (ls.filter (·.2 % count == i)).flatMap (·.1)
  | 'l' =>
      let add := fun (done : List (Nat × Text) × Nat) (l : Text) =>
        let (made, place) := done
        let piece := ((List.range count).find? fun i => place < bound (i + 1)).getD (count - 1)
        (made ++ [(piece, l)], place + l.length)
      let made := ((fullLines t).foldl add ([], 0)).1
      (List.range count).map fun i => (made.filter (·.1 == i)).flatMap (·.2)
  | _ => (List.range count).map fun i => (t.take (bound (i + 1))).drop (bound i)

/-- What the pieces of a file are: the letter of the option that says it, and its value. -/
def piecesFor (g : Given) (t : Text) : Except Text (List Text) := do
  let separator := ((g.value? 't').bind List.head?).getD '\n'
  let kind := (g.last? "lbCn").getD 'l'
  let value := (g.value? kind).getD "1000".toList
  let wrong := fun (what : String) => Except.error
    ("invalid number of ".toList ++ what.toList ++ ": ".toList ++ quoted value)
  match kind with
  | 'n' =>
      let parts := value.splitOn '/'
      let (way, numbers) := match parts with
        | [['l'], n] => ('l', [n])
        | [['r'], n] => ('r', [n])
        | [['l'], i, n] => ('l', [i, n])
        | [['r'], i, n] => ('r', [i, n])
        | ns => (' ', ns)
      match numbers.map scaledCount? with
      | [some n] => if n == 0 then wrong "chunks" else .ok (equalPieces way n t)
      | [some i, some n] =>
          if n == 0 || i == 0 || n < i then wrong "chunks"
          else .ok ((equalPieces way n t).drop (i - 1) |>.take 1)
      | _ => wrong "chunks"
  | kind =>
      let what := if kind == 'l' then "lines" else "bytes"
      match scaledCount? value with
      | none => wrong what
      | some 0 => wrong what
      | some n =>
          match kind with
          | 'b' => .ok (piecesOfSize n (t.length + 1) t)
          | 'C' =>
              let ls := fullLines t
              .ok (boundedGroups n (2 * t.length + ls.length + 1) ls [])
          | _ => .ok (lineGroups separator n t)

/-- Cuts a file into several. -/
def splitFile (words : List Text) : Action Nat := do
  let kinds : OptionKinds := ⟨"dxeu", "abClnt", [("suffix-length", 'a'), ("bytes", 'b'),
    ("line-bytes", 'C'), ("lines", 'l'), ("number", 'n'), ("separator", 't'),
    ("additional-suffix", 'A'), ("elide-empty-files", 'e'), ("unbuffered", 'u'),
    ("verbose", 'v'), ("filter", 'F')]⟩
  let kinds := { kinds with valued := kinds.valued ++ "AF" }
  -- Endings that are numbers may begin at one that is given.
  let isFirst := fun (t : Text) => "--numeric-suffixes".toList.isPrefixOf t
  let first := (words.find? isFirst).map fun t => ((Text.cutAt '=' t).2.map (inBase 10)).getD 0
  let words := words.map fun t =>
    match t with
    | '-' :: c :: rest => if c.isDigit && rest.all Char.isDigit then '-' :: 'l' :: c :: rest else t
    | t => t
  withOptions "split" kinds 1 (fun g => do
    match g.operands with
    | _ :: _ :: extra :: _ => misused "split" ("extra operand ".toList ++ quoted extra) 1
    | operands =>
        let source := operands.head?.getD ['-']
        let start := ((operands.drop 1).head?).getD ['x']
        -- The numbers are looked at before the file is.
        match piecesFor g [] with
        | .error message =>
            complainAs "split" message
            return 1
        | .ok _ =>
        match ← content source with
        | .error reason =>
            complainOf "split" "cannot open " (quoted source ++ " for reading".toList) reason
            return 1
        | .ok t =>
            let pieces := match piecesFor g t with
              | .ok pieces => pieces
              | .error _ => []
            let shows := (g.last? "lbCn") == some 'n' &&
              ((g.value? 'n').getD []).count '/' ==
                (if ((g.value? 'n').getD []).head?.any Char.isDigit then 1 else 2)
            if shows then
              write pieces.flatten
              return 0
            let pieces := if g.has 'e' then pieces.filter (!·.isEmpty) else pieces
            let alphabet := if first.isSome || g.last? "dx" == some 'd' then "0123456789".toList
              else if g.last? "dx" == some 'x' then "0123456789abcdef".toList
              else "abcdefghijklmnopqrstuvwxyz".toList
            let fixed := (g.value? 'a').map (inBase 10)
            let ending := fun (i : Nat) =>
              let i := i + first.getD 0
              match fixed with
              | some length =>
                  if length == 0 || i < Nat.pow alphabet.length length then
                    some (pieceLetters alphabet (if length == 0 then 2 else length) i)
                  else none
              | none => some (pieceEnding alphabet 8 2 i)
            let more := (g.value? 'A').getD []
            for (piece, i) in pieces.zipIdx do
              match ending i with
              | none =>
                  complainAs "split" "output file suffixes exhausted".toList
                  return 1
              | some e =>
                  let name := start ++ e ++ more
                  if g.has 'v' then writeLine ("creating file ".toList ++ quoted name)
                  if let some reason := ← store name piece then
                    complainOf "split" "" (named name) reason
                    return 1
            return 0) (words.filter (!isFirst ·))

/-! ## Parts -/

/-- Exchanges each byte with its neighbour. -/
def swapPairs : Text → Text
  | a :: b :: rest => b :: a :: swapPairs rest
  | t => t

/-- Copies a part of a file in blocks. -/
def copyBlocks (words : List Text) : Action Nat := do
  let names := ["if", "of", "bs", "ibs", "obs", "count", "skip", "seek", "conv", "status", "iflag",
    "oflag", "cbs"]
  let given := words.map (Text.cutAt '=')
  let value? := fun (name : String) =>
    (given.reverse.find? (·.1 == name.toList)).bind (·.2)
  let unknown := given.zip words |>.find? fun (p, _) =>
    p.2.isNone || !names.any (·.toList == p.1)
  if let some (_, word) := unknown then
    return ← misused "dd" ("unrecognized operand ".toList ++ quoted word) 1
  let listed := fun (name : String) => ((value? name).map (·.splitOn ',')).getD []
  let conversions := ["notrunc", "ucase", "lcase", "swab", "sync", "noerror", "fsync", "fdatasync",
    "excl", "nocreat", "sparse"]
  if let some bad := (listed "conv").find? fun t => !conversions.any (·.toList == t) then
    return ← misused "dd" ("invalid conversion: ".toList ++ quoted bad) 1
  let status := (value? "status").getD []
  if !(["", "none", "noxfer", "progress"].any (·.toList == status)) then
    return ← misused "dd" ("invalid status level: ".toList ++ quoted status) 1
  let sizes := ["bs", "ibs", "obs", "count", "skip", "seek"]
  let isBad := fun (name : String) => (value? name).any fun t =>
    match scaledCount? t with
    | none => true
    | some n => n == 0 && ["bs", "ibs", "obs"].contains name
  if let some bad := sizes.find? isBad then
    complainAs "dd" ("invalid number: ".toList ++ quoted ((value? bad).getD []))
    return 1
  let size? := fun (name : String) => (value? name).bind scaledCount?
  let inSize := (size? "bs" <|> size? "ibs").getD 512
  let outSize := (size? "bs" <|> size? "obs").getD 512
  let has := fun (name : String) => (listed "conv").contains name.toList
  let inBytes := fun (name flag : String) =>
    (listed name).contains flag.toList
  let source := (value? "if").getD ['-']
  let failed := fun (t : Text) (reason : String) => do
    complainOf "dd" "failed to open " (quoted t) reason
    return 1
  match ← openOperand source with
  | .error reason => failed source reason
  | .ok stream =>
      let skipped := (size? "skip").getD 0 * (if inBytes "iflag" "skip_bytes" then 1 else inSize)
      let count := (size? "count").map fun n =>
        if inBytes "iflag" "count_bytes" then n else n * inSize
      let taken ← takeUpTo stream (count.map (· + skipped)) pieceBound []
      closeOperand stream
      match taken with
      | .error reason =>
          complainOf "dd" "error reading " (quoted source) reason
          return 1
      | .ok bytes =>
          let bytes := bytes.drop skipped
          let full := bytes.length / inSize
          let part := if bytes.length % inSize == 0 then 0 else 1
          let bytes := if has "sync" && part == 1 then
              bytes ++ List.replicate (inSize - bytes.length % inSize) '\x00'
            else bytes
          let bytes := if has "swab" then swapPairs bytes else bytes
          let bytes := if has "ucase" then bytes.map Char.toUpper
            else if has "lcase" then bytes.map Char.toLower else bytes
          let seek := (size? "seek").getD 0 * (if inBytes "oflag" "seek_bytes" then 1 else outSize)
          let put ← match value? "of" with
            | none => do
                write bytes
                pure none
            | some t => do
                match ← openToWrite { keeps := true } t with
                | .error reason => pure (some (t, reason))
                | .ok _ =>
                    let s ← get
                    match reached s t, file? s t with
                    | some names, some old =>
                        let before := old.take seek ++ List.replicate (seek - old.length) 0
                        let after := if has "notrunc" then old.drop (seek + bytes.length) else []
                        if let some (.file _ runnable) := s.system.tree.entry? names then
                          modifySystem (·.setEntry names
                            (.file (before ++ bytesOf bytes ++ after) runnable))
                        pure none
                    | _, _ => do
                        let _ ← store t bytes
                        pure none
          match put with
          | some (t, reason) => failed t reason
          | none =>
              let told := fun (full part : Nat) (what : String) =>
                complain (Text.ofNat full ++ '+' :: Text.ofNat part ++ " records ".toList ++
                  what.toList)
              if status != "none".toList then
                told full part "in"
                told (bytes.length / outSize) (if bytes.length % outSize == 0 then 0 else 1) "out"
                if status != "noxfer".toList then
                  let n := Text.ofNat bytes.length
                  complain (n ++ (if bytes.length == 1 then " byte" else " bytes").toList ++
                    " copied, 0.001 s, ".toList ++ n ++ "000 B/s".toList)
              return 0
where
  /-- The bytes of a stream, at most so many if there is a bound. -/
  takeUpTo (stream : Nat) (most : Option Nat) : Nat → List Text → Action (Except String Text)
    | 0, done => return .ok done.reverse.flatten
    | fuel + 1, done => do
        match most with
        | some 0 => return .ok done.reverse.flatten
        | most =>
            match ← takePiece stream most with
            | .error reason => return .error reason
            | .ok [] => return .ok done.reverse.flatten
            | .ok t => takeUpTo stream (most.map (· - t.length)) fuel (t :: done)

/-! ## New names -/

/-- The letters that stand in for unknown ones. -/
def chanceLetters : Text :=
  "abcdefghijklmnopqrstuvwxyzABCDEFGHIJKLMNOPQRSTUVWXYZ0123456789".toList

/-- Letters for a name, made from a number. -/
def lettersFrom : Nat → Nat → Text
  | 0, _ => []
  | count + 1, n =>
      (chanceLetters[n % 62]?).toList ++ lettersFrom count (n * 1103515245 / 62 + 12345)

/-- The first name that nothing has, of those made from a number and its successors. -/
def freeName (s : State) (make : Nat → Text) : Nat → Nat → Text
  | 0, n => make n
  | fuel + 1, n => if (look? s (make n)).isNone then make n else freeName s make fuel (n + 1)

/-- Makes a new file or directory under a name that nothing has, and prints the name. -/
def makeTemporary : List Text → Action Nat :=
  let kinds : OptionKinds := ⟨"dqut", "ps", [("directory", 'd'), ("dry-run", 'u'), ("quiet", 'q'),
    ("suffix", 's'), ("tmpdir", 'p')]⟩
  withOptions "mktemp" kinds 1 fun g => do
    match g.operands with
    | _ :: _ :: _ => misused "mktemp" "too many templates".toList 1
    | operands =>
        let usual := ((← self).value? "TMPDIR").filter (!·.isEmpty)
        let pattern := operands.head?.getD "tmp.XXXXXXXXXX".toList
        let ending := match g.value? 's' with
          | some t => t
          | none => (pattern.reverse.takeWhile (· != 'X')).reverse
        let body := if (g.value? 's').isSome then pattern
          else pattern.take (pattern.length - ending.length)
        let count := (body.reverse.takeWhile (· == 'X')).length
        let said := fun (t : Text) => do
          if !g.has 'q' then complainAs "mktemp" t
          return 1
        if count < 3 then
          said ("too few X's in template ".toList ++ quoted pattern)
        else
          let dir := if operands.isEmpty || g.has 't' || g.has 'p' then
              some ((if g.has 't' then usual <|> g.value? 'p' else g.value? 'p' <|> usual).getD
                "/tmp".toList)
            else none
          let start := body.take (body.length - count)
          let place := fun (t : Text) => match dir with
            | some d => inDirectory d t
            | none => t
          let s ← get
          let make := fun (n : Nat) => place (start ++ lettersFrom count n ++ ending)
          let name := freeName s make 4096 (s.system.clock % 1000003 + 7 * s.process.number)
          let kind := if g.has 'd' then "directory" else "file"
          match locate s name with
          | none =>
              said ("failed to create ".toList ++ kind.toList ++ " via template ".toList ++
                quoted (place (start ++ List.replicate count 'X' ++ ending)) ++ ": ".toList ++
                (absence s name).toList)
          | some names =>
              if !g.has 'u' then
                if g.has 'd' then addEntry names .directory 0o700
                else addEntry names (.file [] false) 0o600
              writeLine name
              return 0

end Runbook.Shell
