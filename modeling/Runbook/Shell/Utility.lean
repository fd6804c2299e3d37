import Runbook.Shell.Place

set_option autoImplicit false

/-! # Utilities

What the commands that are programs of their own have in common. A utility is given words, some
of which are options: letters behind a dash, of which some have a value, and long names behind
two. Options may stand anywhere before two dashes alone. A utility complains on the standard
error and says by its status whether all went well.
-/

namespace Runbook.Shell

/-! ## Options -/

/-- The options that a utility has. -/
structure OptionKinds where
  /-- The letters of those without a value, and of those with one. -/
  plain : String := ""
  valued : String := ""
  /-- The letters that long names stand for. -/
  long : List (String × Char) := []

/-- What a utility has been given: its options in order, with their values, and the other
words. -/
structure Given where
  options : List (Char × Text) := []
  operands : List Text := []

namespace Given

/-- Whether an option is among those given. -/
def has (g : Given) (c : Char) : Bool := g.options.any (·.1 == c)

/-- The value of an option, the last one if there are several. -/
def value? (g : Given) (c : Char) : Option Text := (g.options.reverse.find? (·.1 == c)).map (·.2)

/-- All values of an option. -/
def values (g : Given) (c : Char) : List Text := (g.options.filter (·.1 == c)).map (·.2)

/-- Which of some letters was given last. -/
def last? (g : Given) (letters : String) : Option Char :=
  (g.options.reverse.find? fun o => letters.toList.contains o.1).map (·.1)

end Given

/-- Reads letters behind a dash: the options, and the letter whose value is the next word. -/
def readLetters (k : OptionKinds) : Text → Except Text (List (Char × Text) × Option Char)
  | [] => .ok ([], none)
  | c :: rest =>
      if k.valued.toList.contains c then
        .ok (if rest.isEmpty then ([], some c) else ([(c, rest)], none))
      else if k.plain.toList.contains c then do
        let (more, open?) ← readLetters k rest
        .ok ((c, []) :: more, open?)
      else .error ("invalid option -- '".toList ++ [c, '\''])

/-- The letter that a long name stands for, which may be cut short, or why there is none. -/
def longOption (k : OptionKinds) (name : Text) : Except Text Char :=
  let found := k.long.filter fun (n, _) => name.isPrefixOf n.toList
  match found.find? fun (n, _) => n.toList == name, found with
  | some (_, c), _ => .ok c
  | none, [(_, c)] => .ok c
  | none, [] => .error ("unrecognized option '--".toList ++ name ++ ['\''])
  | none, _ :: _ =>
      let all := Text.join [' '] (found.map fun (n, _) => "'--".toList ++ n.toList ++ ['\''])
      .error ("option '--".toList ++ name ++ "' is ambiguous; possibilities: ".toList ++ all)

/-- Reads the words of a utility. The first operand ends the options if they come `first`. -/
def readGiven (k : OptionKinds) (first : Bool) : List Text → Except Text Given
  | [] => .ok {}
  | ['-', '-'] :: rest => .ok { operands := rest }
  | ('-' :: '-' :: body) :: rest => do
      let (name, value) := Text.cutAt '=' body
      let c ← longOption k name
      let add := fun (v : Text) (g : Given) => ({ g with options := (c, v) :: g.options } : Given)
      if k.valued.toList.contains c then
        match value, rest with
        | some v, more => add v <$> readGiven k first more
        | none, v :: more => add v <$> readGiven k first more
        | none, [] =>
            .error ("option '--".toList ++ name ++ "' requires an argument".toList)
      else if value.isSome then
        .error ("option '--".toList ++ name ++ "' doesn't allow an argument".toList)
      else add [] <$> readGiven k first rest
  | ('-' :: c :: letters) :: rest => do
      let (options, missing) ← readLetters k (c :: letters)
      match missing, rest with
      | none, more =>
          let g ← readGiven k first more
          .ok { g with options := options ++ g.options }
      | some d, v :: more =>
          let g ← readGiven k first more
          .ok { g with options := options ++ (d, v) :: g.options }
      | some d, [] => .error ("option requires an argument -- '".toList ++ [d, '\''])
  | word :: rest =>
      if first then .ok { operands := word :: rest }
      else do
        let g ← readGiven k first rest
        .ok { g with operands := word :: g.operands }

/-! ## Complaints -/

/-- A byte that needs no quotation in a message. -/
def isPlainByte (c : Char) : Bool := c.isAlphanum || "%+,-./:@]_".toList.contains c

/-- A control character or a byte beyond ASCII as it is written in a message. -/
def escapedByte? (c : Char) : Option Text :=
  if 0x20 ≤ c.toNat && c.toNat < 0x7f then none
  else
    some ('\\' :: match c with
      | '\x07' => ['a']
      | '\x08' => ['b']
      | '\x0c' => ['f']
      | '\n' => ['n']
      | '\r' => ['r']
      | '\t' => ['t']
      | '\x0b' => ['v']
      | c =>
          let ds := Nat.toDigits 8 c.toNat
          List.replicate (3 - ds.length) '0' ++ ds)

/-- The inside of quotation marks; `escaping` says whether the byte before was escaped. -/
def quotedBytes (escaping : Bool) : Text → Text
  | [] => if escaping then [] else ['\'']
  | c :: rest =>
      match escapedByte? c with
      | some e => (if escaping then [] else "'$'".toList) ++ e ++
          (match rest.head?.bind escapedByte? with
            | some _ => quotedBytes true rest
            | none => '\'' :: if rest.isEmpty then [] else '\'' :: quotedBytes false rest)
      | none =>
          (if c == '\'' then "'\\''".toList else [c]) ++ quotedBytes false rest

/-- A text between quotation marks, so that a shell would read it back. -/
def quoted (t : Text) : Text :=
  if t.contains '\'' && t.all fun c => isPlainByte c || c == '\'' || c == ' ' then
    '"' :: t ++ ['"']
  else '\'' :: quotedBytes false t

/-- A text between quotation marks if a shell would need them. -/
def named (t : Text) : Text :=
  if !t.isEmpty && t.all fun c => isPlainByte c && c != ':' then t else quoted t

/-- A message of a utility. -/
def complainAs (name : String) (message : Text) : Action Unit :=
  complain (name.toList ++ ": ".toList ++ message)

/-- A message about an operand, with a reason. -/
def complainOf (name what : String) (operand : Text) (reason : String) : Action Unit :=
  complainAs name (what.toList ++ operand ++ ": ".toList ++ reason.toList)

/-- A message about how the utility is used; gives the status. -/
def misused (name : String) (message : Text) (status : Nat) : Action Nat := do
  complainAs name message
  complain ("Try '".toList ++ name.toList ++ " --help' for more information.".toList)
  return status

/-- Runs a utility on what it has been given, if that can be read. -/
def withOptions (name : String) (k : OptionKinds) (status : Nat) (run : Given → Action Nat)
    (words : List Text) : Action Nat :=
  match readGiven k false words with
  | .ok g => run g
  | .error message => misused name message status

/-- Does something with each of some texts, and gives `failure` if one of them failed. -/
def eachOf (ts : List Text) (failure : Nat) (f : Text → Action Bool) : Action Nat :=
  match ts with
  | [] => return 0
  | t :: rest => do
      let good ← f t
      let status ← eachOf rest failure f
      return if good then status else failure

/-! ## Input -/

/-- The lines of a text, and whether a line end stands behind the last one. -/
def linesOf (t : Text) : List Text × Bool :=
  let pieces := t.foldr (fun c done =>
    match c, done with
    | '\n', _ => [] :: done
    | c, d :: more => (c :: d) :: more
    | c, [] => [[c]]) [[]]
  if pieces.getLast? == some [] then (pieces.dropLast, true) else (pieces, false)

/-- The lines of a text, without their ends. -/
def linesIn (t : Text) : List Text := (linesOf t).1

/-- The number of the first stream that leads to an operand. -/
def operandStream : Nat := 64

/-- Opens an operand for reading, and gives its stream, or tells what stands in the way. A dash is
the standard input. -/
def openOperand (t : Text) : Action (Except String Nat) := do
  if t == ['-'] then return .ok 0
  match ← openToRead t with
  | .error reason => return .error reason
  | .ok file =>
      let used := (← self).streams.map (·.1)
      let free := ((List.range 64).map (· + operandStream)).find? (!used.contains ·)
      let stream := free.getD operandStream
      lead stream (some file)
      return .ok stream

/-- Closes the stream of an operand. -/
def closeOperand (stream : Nat) : Action Unit := do
  if operandStream ≤ stream then lead stream none

/-- Does something with the stream of an operand, or tells why it cannot be opened. -/
def withOperand {α : Type} (t : Text) (f : Nat → Action (Except String α)) :
    Action (Except String α) := do
  match ← openOperand t with
  | .error reason => return .error reason
  | .ok stream =>
      let r ← f stream
      closeOperand stream
      return r

/-- The bytes of an operand; a dash is the standard input. -/
def content (t : Text) : Action (Except String Text) := withOperand t takeAll

/-- Whether a stream leads to the file that the standard output leads to. -/
def isOutput (stream : Nat) : Action Bool := do
  let s ← get
  match s.stream? stream, s.stream? 1 with
  | some (_, f), some (_, out) =>
      return match f.target, out.target with
        | .file source, .file names => (s.system.namesOf names).contains source
        | _, _ => false
  | _, _ => return false

/-- Gives the pieces of a stream, as they come, to an action until it wants no more. -/
def overPieces (stream : Nat) (f : Text → Action Bool) : Nat → Action (Except String Unit)
  | 0 => return .ok ()
  | fuel + 1 => do
      match ← takePiece stream none with
      | .error reason => return .error reason
      | .ok [] => return .ok ()
      | .ok t =>
          let goesOn ← f t
          if goesOn && (← self).broken.isNone && !(← comesWhole stream) then
            overPieces stream f fuel
          else return .ok ()

/-- The lines of a text with their ends. -/
def fullLines (t : Text) : List Text :=
  let (ls, ended) := linesOf t
  if ended then ls.map (· ++ ['\n'])
  else ls.dropLast.map (· ++ ['\n']) ++ (ls.getLast?).toList

/-- A line without its end. -/
def withoutLineEnd (l : Text) : Text := if l.getLast? == some '\n' then l.dropLast else l

/-- The lines of a text that have an end, and what stands behind them. -/
def endedLines (t : Text) : List Text × Text :=
  let ls := fullLines t
  match ls.getLast? with
  | some l => if l.getLast? == some '\n' then (ls, []) else (ls.dropLast, l)
  | none => ([], [])

/-- Goes back over `n` bytes of a stream if it leads to a file. -/
def giveBack (stream n : Nat) : Action Unit := do
  match (← get).stream? stream with
  | some (i, f) =>
      match f.target with
      | .file _ => modifySystem (·.setFile i { f with offset := f.offset - n })
      | _ => return
  | none => return

/-- Gives the lines of a stream with their ends, those together that come together, to an action
that keeps a value. It tells which of the lines it has not used if it wants no more of them. `begun`
is the beginning of a line. -/
def overLines {σ : Type} (stream : Nat) (f : σ → List Text → Action (σ × Option (List Text))) :
    Nat → Text → σ → Action (Except String σ)
  | 0, _, a => return .ok a
  | fuel + 1, begun, a => do
      match ← takePiece stream none with
      | .error reason => return .error reason
      | .ok [] => if begun.isEmpty then return .ok a else return .ok (← f a [begun]).1
      | .ok t =>
          let (ls, rest) := if ← comesWhole stream then (fullLines (begun ++ t), [])
            else endedLines (begun ++ t)
          if ls.isEmpty then overLines stream f fuel rest a
          else
            match ← f a ls with
            | (a, some unused) =>
                giveBack stream ((unused.map (·.length)).foldl (· + ·) rest.length)
                return .ok a
            | (a, none) =>
                if (← self).broken.isSome || (← comesWhole stream) then return .ok a
                overLines stream f fuel rest a

/-- Cuts a list into pieces of so many members. -/
def piecesOfSize {α : Type} (n : Nat) : Nat → List α → List (List α)
  | 0, _ => []
  | _, [] => []
  | fuel + 1, xs => xs.take n :: piecesOfSize n fuel (xs.drop n)

/-- The operands that files are read from; with none the standard input is. -/
def Given.inputs (g : Given) : List Text := if g.operands.isEmpty then [['-']] else g.operands

/-- Gives the lines of operands with their ends to an action that keeps a value, and says whether
all operands could be read. -/
def overInputs {σ : Type} (name what : String) (f : σ → List Text → Action σ) :
    List Text → σ → Action (σ × Bool)
  | [], a => return (a, true)
  | t :: rest, a => do
      let step := fun (a : σ) (ls : List Text) => do return (← f a ls, none)
      match ← withOperand t fun stream => overLines stream step pieceBound [] a with
      | .ok a => overInputs name what f rest a
      | .error reason =>
          complainOf name what (named t) reason
          return ((← overInputs name what f rest a).1, false)

/-- Prints what becomes of each line of operands, and says whether all operands could be read. -/
def mapLines (name : String) (f : Text → Option Text) (operands : List Text) : Action Bool := do
  let shown := fun (_ : Unit) (ls : List Text) => do
    write (Text.terminated ((ls.map withoutLineEnd).filterMap f))
  return (← overInputs name "" shown operands ()).2

/-- What all of the operands hold, with a complaint about each that cannot be read. -/
def contents (name what : String) : List Text → Action (List Text × Bool)
  | [] => return ([], true)
  | t :: rest => do
      match ← content t with
      | .ok c =>
          let (more, good) ← contents name what rest
          return (c :: more, good)
      | .error reason =>
          complainOf name what (named t) reason
          return ((← contents name what rest).1, false)

/-! ## Output -/

/-- Writes bytes to an open file, or tells what stands in the way. -/
def writeToFile (file : Nat) (bytes : Text) : Action (Option String) := do
  let used := (← self).streams.map (·.1)
  let stream := (((List.range 64).map (· + operandStream)).find? (!used.contains ·)).getD
    operandStream
  lead stream (some file)
  let r ← if bytes.isEmpty then pure none else writeTo? stream bytes
  lead stream none
  return r

/-- Makes a file hold bytes, or tells what stands in the way. -/
def store (t bytes : Text) : Action (Option String) := do
  match ← openToWrite {} t with
  | .error reason => return some reason
  | .ok file => writeToFile file bytes

/-! ## Changing the tree -/

/-- Puts a new entry into the file tree, with permissions that the mask of the process lets it
have. -/
def addEntry (names : List Text) (e : Entry) (wanted : Nat) : Action Unit := do
  let mask := (← self).mask
  modifySystem (·.make names e wanted mask)

/-- Takes an entry and all that lies below it out of the file tree. -/
def removeEntry (names : List Text) : Action Unit := modifySystem (·.remove names)

end Runbook.Shell
