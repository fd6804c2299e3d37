import Runbook.Shell.Course

set_option autoImplicit false

/-! # Streams

Reading from what is open and writing to it. One that reads from an empty pipe waits as long as
somebody can write to it; one that writes to a full pipe waits as long as somebody can read from
it, and suffers a signal when nobody can.
-/

namespace Runbook.Shell

/-! ## Signals -/

/-- Whether a signal leaves a process alone that has not set a trap for it. -/
def isHarmless (n : Nat) : Bool := n == 0 || n == 17 || n == 18 || n == 23 || n == 28

/-- Whether a signal stops a process that has not set a trap for it. -/
def isStopping (n : Nat) : Bool := 19 ≤ n && n ≤ 22

/-- Whether a signal cannot be caught. -/
def isForced (n : Nat) : Bool := n == 9 || n == 19

/-- What a process runs on a signal, which is nothing if it ignores the signal. None if it has not
said anything about it, or is not asked. -/
def Process.response (p : Process) (n : Nat) : Option Text :=
  if isForced n then none
  else if p.ignored.contains n then some []
  else (p.traps.find? (·.1 == n)).map (·.2)

/-- Lets a signal take effect on the process: it ends or stops it, is ignored, or is remembered
for its trap. -/
def suffer (n : Nat) : Action Unit := do
  let p ← self
  match p.response n with
  | none =>
      if isHarmless n then return
      else if isStopping n then
        modifySystem fun s => { s with stopped := p.number :: s.stopped }
        pause .turn
      else throw (.killed n)
  | some [] => return
  | some _ => modifySystem fun s => { s with signals := s.signals ++ [(p.number, n)] }

/-! ## Open files -/

/-- Opens a file and gives its number. -/
def openFile (f : OpenFile) : Action Nat := do
  let n := (← get).system.files.size
  modifySystem fun s => { s with files := s.files.push f }
  return n

/-- Opens a new pipe, and gives its number and those of its two ends. -/
def openPipe : Action (Nat × Nat × Nat) := do
  let n := (← get).system.pipes.size
  modifySystem fun s => { s with pipes := s.pipes.push {} }
  let source ← openFile { target := .source n, writable := false }
  let sink ← openFile { target := .sink n, readable := false }
  return (n, source, sink)

/-- The process with a stream led to an open file, or closed. -/
def Process.lead (p : Process) (stream : Nat) (file : Option Nat) : Process :=
  { p with streams := (file.toList.map (stream, ·)) ++ p.streams.filter (·.1 != stream) }

/-- Leads a stream to an open file, or closes it. -/
def lead (stream : Nat) (file : Option Nat) : Action Unit := modifySelf (·.lead stream file)

/-! ## Writing -/

/-- Bytes with others put in at a place; a gap is filled with zeros. -/
def splice (old new : List UInt8) (place : Nat) : List UInt8 :=
  if place == old.length then old ++ new
  else
    old.take place ++ List.replicate (place - old.length) 0 ++ new ++
      old.drop (place + new.length)

/-- The system with bytes put into a file at a place, as long as there is one. -/
def System.writeFile (s : System) (names : List Text) (bytes : List UInt8) (place : Nat) : System :=
  match s.tree.entry? names with
  | some (.file old runnable) => s.setEntry names (.file (splice old bytes place) runnable)
  | _ => s

/-- The length of a file. -/
def lengthOf (tree : FileTree) (names : List Text) : Nat :=
  match tree.entry? names with
  | some (.file bytes _) => bytes.length
  | _ => 0

/-- What is said of a stream that is not open for what is done with it. -/
def badStream : String := "Bad file descriptor"

/-- Writes a text to a stream, or tells what stands in the way. -/
def writeTo? (stream : Nat) (t : Text) : Action (Option String) := do
  match (← get).stream? stream with
  | none => return some badStream
  | some (i, f) =>
      if !f.writable then return some badStream
      match f.target with
      | .device .full => return if t.isEmpty then none else some "No space left on device"
      | .device _ => return none
      | .text _ => return some badStream
      | .source _ => return some badStream
      | .sink n =>
          let s ← get
          if Pipe.capacity ≤ (s.system.pipe n).size && s.isHeld (.source n) then pause (.room n)
          if !(← get).isHeld (.source n) then
            suffer 13
            return some "Broken pipe"
          modifySystem fun s => s.setPipe n ((s.pipe n).push t)
          return none
      | .file names =>
          modifySystem fun s =>
            let place := if f.appends then lengthOf s.tree names else f.offset
            (s.writeFile names (bytesOf t) place).setFile i { f with offset := place + t.length }
          return none

/-- Writes a text to a stream. That it cannot be written to the standard output is remembered. -/
def writeTo (stream : Nat) (t : Text) : Action Unit := do
  if !t.isEmpty then
    if let some reason ← writeTo? stream t then
      if stream == 1 then modifySelf fun p => { p with broken := some reason }

/-- Writes a text to the standard output. -/
def write (t : Text) : Action Unit := writeTo 1 t

/-- Writes a line to the standard output. -/
def writeLine (t : Text) : Action Unit := write (t ++ ['\n'])

/-! ## Reading -/

/-- Bytes that look as if they came by chance. -/
def chanceBytes (place count : Nat) : Text :=
  (List.range count).map fun i =>
    Char.ofNat ((((place + i) * 1103515245 + 12345) * 2654435761 / 65536) % 256)

/-- The beginning of a list up to a limit if there is one. -/
def upTo {α : Type} (limit : Option Nat) (xs : List α) : List α :=
  match limit with
  | some n => xs.take n
  | none => xs

/-- How many bytes a device without end gives at once. -/
def deviceBlock : Nat := 16384

/-- What can be read from an open file without waiting, at most `limit` bytes of it if there is a
limit. -/
def System.ready (s : System) (f : OpenFile) (limit : Option Nat) : Text :=
  match f.target with
  | .device .null => []
  | .device .random => upTo limit (chanceBytes f.offset deviceBlock)
  | .device _ => upTo limit (List.replicate deviceBlock '\x00')
  | .text bytes => upTo limit (bytes.drop f.offset)
  | .source n => upTo limit (s.pipe n).front
  | .sink _ => []
  | .file names =>
      match s.tree.entry? names with
      | some (.file bytes _) =>
          textOf (upTo limit (bytes.drop f.offset))
      | _ => []

/-- What comes next from a stream, at most `limit` bytes of it if there is a limit, or why it cannot
be read. It is waited for if need be, and is nothing at the end. -/
def peekStream (stream : Nat) (limit : Option Nat) : Action (Except String Text) := do
  match (← get).stream? stream with
  | none => return .error badStream
  | some (_, f) =>
      if !f.readable then return .error badStream
      match f.target with
      | .sink _ => return .error badStream
      | .source n =>
          let s ← get
          if (s.system.pipe n).size == 0 && s.isHeld (.sink n) then pause (.bytes n)
          modifySystem fun s => s.setPipe n (s.pipe n).gathered
          return .ok ((← get).system.ready f limit)
      | .file names =>
          let s := (← get).system
          if s.tree.entry? names == some .directory then return .error "Is a directory"
          return .ok (s.ready f limit)
      | _ => return .ok ((← get).system.ready f limit)

/-- Passes over `n` bytes of a stream. -/
def advance (stream : Nat) (n : Nat) : Action Unit := do
  match (← get).stream? stream with
  | some (i, f) =>
      match f.target with
      | .source k => modifySystem fun s => s.setPipe k ((s.pipe k).drop n)
      | _ => modifySystem fun s => s.setFile i { f with offset := f.offset + n }
  | none => pure ()

/-- How many pieces are read from a stream at most. -/
def pieceBound : Nat := 1000000

/-- Takes what comes next from a stream, at most `limit` bytes of it if there is a limit. It is
nothing at the end. -/
def takePiece (stream : Nat) (limit : Option Nat) : Action (Except String Text) := do
  match ← peekStream stream limit with
  | .error reason => return .error reason
  | .ok t =>
      advance stream t.length
      return .ok t

/-- Whether a stream has no end. -/
def isEndless (stream : Nat) : Action Bool := do
  match (← get).stream? stream with
  | some (_, f) =>
      return match f.target with
        | .device .null => false
        | .device _ => true
        | _ => false
  | none => return false

/-- Whether the first piece of a stream is all that there is. -/
def comesWhole (stream : Nat) : Action Bool := do
  match (← get).stream? stream with
  | some (_, f) =>
      return match f.target with
        | .file _ => true
        | .text _ => true
        | _ => false
  | none => return true

/-- Takes all that is left of a stream behind the pieces that have been taken, the last one first.
A stream without end counts as one piece. -/
def takeFrom (stream : Nat) : Nat → List Text → Action (Except String Text)
  | 0, pieces => return .ok pieces.reverse.flatten
  | fuel + 1, pieces => do
      match ← takePiece stream none with
      | .error reason => return .error reason
      | .ok [] => return .ok pieces.reverse.flatten
      | .ok t =>
          if (← isEndless stream) || (← comesWhole stream) then return .ok t
          takeFrom stream fuel (t :: pieces)

/-- Takes all that is left of a stream. -/
def takeAll (stream : Nat) : Action (Except String Text) := takeFrom stream pieceBound []

/-- Takes all that is left of the standard input. -/
def takeInput : Action Text := do return (← takeAll 0).toOption.getD []

/-! ## Messages -/

/-- Writes a line to the standard error. -/
def complain (t : Text) : Action Unit := writeTo 2 (t ++ ['\n'])

/-- Writes a message of the shell to the standard error. -/
def report (message : Text) : Action Unit := do
  let p ← self
  let command := match p.command with
    | some name => name ++ ": ".toList
    | none => []
  complain (p.name ++ ": ".toList ++ Text.ofNat p.line ++ ": ".toList ++ command ++ message)

/-- Reports an error. -/
def fail {α : Type} (message : Text) : Action α := do
  report message
  throw (.error 2)

/-- Sets a variable, which must not be fixed. -/
def assign (name value : Text) (exported : Bool) : Action Unit := do
  if ((← self).find? name).any (·.fixed) then fail (name ++ ": is read only".toList)
  modifySelf fun p => p.set name value exported

end Runbook.Shell
