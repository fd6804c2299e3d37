import Runbook.Shell.Scanning.Value
import Runbook.Shell.Utility

set_option autoImplicit false

/-! # The machine that runs a program

While a program runs there are its variables, the current record with its parts, what it reads from
and what it writes to. What is printed is kept back and written together, at the latest before
another program is started and at the end.
-/

namespace Runbook.Shell.Scanning

/-! ## State -/

/-- What a variable has. -/
inductive Cell where
  | unset
  | one (v : Value)
  | many (t : Table Value)
  /-- Whatever another variable has, which has not been set. -/
  | linked (other : Variable)

/-- Where records come from. -/
structure Input where
  name : Text
  stream : Nat
  /-- What has been read and not been used. -/
  rest : Text := []
  atEnd : Bool := false
  /-- The process that writes what is read. -/
  process : Option Nat := none

/-- Where output goes. -/
structure Output where
  name : Text
  way : Destination
  stream : Nat
  /-- What has been printed and not been written, the last piece first. -/
  pending : List Text := []
  /-- The process that reads what is written. -/
  process : Option Nat := none

/-- What stops a statement before its end. -/
inductive Stop where
  | next
  | nextFile
  | exit
  | answer (v : Value)
  | leave
  | resume
  /-- The program has failed; it has been said why. -/
  | failed

/-- The machine. -/
structure Machine where
  /-- The variables by name, and those of the functions that run, the latest last. -/
  shared : Std.HashMap String Cell := ∅
  own : Array Cell := #[]
  /-- Where the variables of the current function begin. -/
  base : Nat := 0
  record : Value := .unset
  /-- The parts of the record, if it has been cut. -/
  parts : Option (Array Value) := none
  ranges : List Nat := []
  regulars : Std.HashMap String Regular := ∅
  inputs : List Input := []
  outputs : List Output := []
  /-- What has been printed and not been written, the last piece first, and how much it is. -/
  pending : List Text := []
  pendingSize : Nat := 0
  /-- The input that the rules are for, and how many arguments have been used. -/
  main : Option Input := none
  used : Nat := 1
  anyFile : Bool := false
  status : Nat := 0
  seed : Float := 0
  chance : Nat := 1

/-- A step of the machine. -/
abbrev Step (α : Type) := ExceptT Stop (StateT Machine Action) α

/-- A step that the process makes. -/
def act {α : Type} (a : Action α) : Step α := ExceptT.lift (StateT.lift a)

/-- The machine. -/
def machine : Step Machine := get

/-! ## Variables -/

/-- What a variable has, whatever it is linked to. -/
def Machine.cell (m : Machine) : Nat → Variable → Cell × Variable
  | 0, v => (.unset, v)
  | fuel + 1, v =>
      let c := match v with
        | .own n => m.own[n]?.getD .unset
        | .shared name => m.shared.getD name .unset
      match c with
      | .linked other => m.cell fuel other
      | c => (c, v)

/-- How many variables may be linked one to another. -/
def linkBound : Nat := 4096

/-- The machine with a variable set. -/
def Machine.setCell (m : Machine) (v : Variable) (c : Cell) : Machine :=
  match v with
  | .own n => { m with own := m.own.setIfInBounds n c }
  | .shared name => { m with shared := m.shared.insert name c }

/-- A variable of the current function by its place among all of them. -/
def Machine.placed (m : Machine) (v : Variable) : Variable :=
  match v with
  | .own n => .own (m.base + n)
  | v => v

/-- A text that a variable of the language holds. -/
def Machine.text (m : Machine) (name : String) : Text :=
  match m.shared.getD name .unset with
  | .one v => v.asText "%.6g".toList
  | _ => []

/-- The format in which numbers become texts. -/
def Machine.format (m : Machine) : Text := m.text "CONVFMT"

/-- A number that a variable of the language holds. -/
def Machine.number (m : Machine) (name : String) : Float :=
  match m.shared.getD name .unset with
  | .one v => v.asNumber
  | _ => 0

/-- Sets a variable of the language to a number. -/
def setNumber (name : String) (x : Float) : Step Unit :=
  modify fun m => m.setCell (.shared name) (.one (.number x))

/-- Counts a record. -/
def countRecord (name : String) : Step Unit := do setNumber name ((← machine).number name + 1)

/-! ## Failing -/

/-- Says that the program cannot go on. -/
def stopWith {α : Type} (message : Text) : Step α := do
  act (complainAs "awk" message)
  modify fun m => { m with status := 2 }
  throw .failed

/-- Says what went wrong while the program was running, and at which record. -/
def stopAtRecord {α : Type} (message : Text) : Step α := do
  let m ← machine
  let place := "\tFILENAME=\"".toList ++ m.text "FILENAME" ++ "\" FNR=".toList ++ m.text "FNR" ++
    " NR=".toList ++ m.text "NR"
  stopWith ("run time error: ".toList ++ message ++ '\n' :: place)

/-! ## Regular expressions -/

/-- The regular expression that a text is. -/
def regularOf (t : Text) : Step Regular := do
  match (← machine).regulars[String.ofList t]? with
  | some r => return r
  | none =>
      match Regular.ofProgram t with
      | .ok r =>
          modify fun m => { m with regulars := m.regulars.insert (String.ofList t) r }
          return r
      | .error _ => stopWith ("regular expression compile failed\n".toList ++ t)

/-- How texts are cut that a text separates. -/
def separatorOf (t : Text) : Step Separator := do
  match t with
  | [' '] => return .blanks
  | [] => return .nothing
  | [c] => return .byte c
  | t => return .regular (← regularOf t)

/-! ## The record -/

/-- Makes a text the record. -/
def setRecord (v : Value) : Step Unit := modify fun m => { m with record := v, parts := none }

/-- The parts of the record. -/
def parts : Step (Array Value) := do
  let m ← machine
  match m.parts with
  | some ps => return ps
  | none =>
      let s ← separatorOf (m.text "FS")
      let ps := ((s.parts (m.record.asText m.format)).map Value.input).toArray
      modify fun m => { m with parts := some ps }
      return ps

/-- Makes values the parts of the record, and the record what they make together. -/
def setParts (ps : Array Value) : Step Unit := do
  let m ← machine
  let t := Text.join (m.text "OFS") (ps.toList.map (·.asText m.format))
  modify fun m => { m with record := .input t, parts := some ps }

/-- Makes the record have so many parts. -/
def resize (n : Nat) : Step Unit := do
  let ps ← parts
  setParts ((ps.extract 0 n) ++ Array.replicate (n - ps.size) (Value.input []))

/-- The number of a part, which must not be below zero. -/
def partNumber (v : Value) : Step Nat := do
  match wholeOf? v.asNumber with
  | some n =>
      if n < 0 then stopAtRecord ("negative field index $".toList ++ Text.ofInt n)
      return n.toNat
  | none => return 0

/-- A part of the record; the part zero is the record itself. -/
def part (n : Nat) : Step Value := do
  if n == 0 then return (← machine).record
  return (← parts)[n - 1]?.getD .unset

/-- Sets a part of the record. -/
def setPart (n : Nat) (v : Value) : Step Unit := do
  if n == 0 then setRecord v
  else
    let ps ← parts
    let ps := ps ++ Array.replicate (n - ps.size) (Value.input [])
    setParts (ps.setIfInBounds (n - 1) v)

/-! ## Values of variables -/

/-- The value of a variable. -/
def valueOf (v : Variable) : Step Value := do
  match v with
  | .shared "NF" => return .number (ofWhole (← parts).size)
  | v =>
      let m ← machine
      match (m.cell linkBound (m.placed v)).1 with
      | .one a => return a
      | .many _ => stopWith "illegal reference to array".toList
      | _ => return .unset

/-- Sets a variable. -/
def setValue (v : Variable) (a : Value) : Step Unit := do
  match v with
  | .shared "NF" => resize (((wholeOf? a.asNumber).getD 0).toNat)
  | .shared "FS" => do
      -- The record is cut as it was to be when it came.
      let _ ← parts
      modify fun m => m.setCell v (.one a)
  | v =>
      let m ← machine
      let place := m.placed v
      match (m.cell linkBound place).1 with
      | .many _ => stopWith "illegal reference to array".toList
      | _ => modify fun m => m.setCell place (.one a)

/-- The table that a variable has, and where it is. -/
def tableOf (v : Variable) : Step (Table Value × Variable) := do
  let m ← machine
  match m.cell linkBound (m.placed v) with
  | (.many t, place) => return (t, place)
  | (.unset, place) => return (Table.empty, place)
  | _ => stopWith "illegal reference to variable".toList

/-- Changes the table that a variable has. -/
def modifyTable (v : Variable) (f : Table Value → Table Value) : Step Unit := do
  let (t, place) ← tableOf v
  -- The table is taken out while it changes.
  modify fun m => m.setCell place .unset
  modify fun m => m.setCell place (.many (f t))

/-! ## Writing -/

/-- Writes what has been printed. -/
def flushMain : Step Unit := do
  let pieces := (← machine).pending
  if !pieces.isEmpty then
    modify fun m => { m with pending := [], pendingSize := 0 }
    act (write pieces.reverse.flatten)

/-- Writes what has been printed to an output. -/
def flushOutput (o : Output) : Step Output := do
  if !o.pending.isEmpty then act (writeTo o.stream o.pending.reverse.flatten)
  return { o with pending := [] }

/-- Writes all that has been printed. -/
def flushAll : Step Unit := do
  flushMain
  let outputs ← (← machine).outputs.mapM flushOutput
  modify fun m => { m with outputs }

/-- How much is kept back at most. -/
def keptSize : Nat := 4096

/-- Prints to the standard output. -/
def printMain (t : Text) : Step Unit := do
  modify fun m => { m with
    pending := t :: m.pending, pendingSize := m.pendingSize + t.length }
  if keptSize ≤ (← machine).pendingSize then flushMain

/-! ## Streams -/

/-- The number of a stream that is free. -/
def freeStream : Action Nat := do
  let used := (← self).streams.map (·.1)
  return (((List.range 1024).map (· + operandStream)).find? (!used.contains ·)).getD operandStream

/-- The process without the streams that only the machine has, and one of its streams led
elsewhere. -/
def forCommand (p : Process) (stream file : Nat) : Process :=
  let q : Process := { p with streams := p.streams.filter (·.1 < operandStream) }
  q.lead stream (some file)

/-- Starts a command one of whose streams leads into a pipe, and gives the stream of the other end
and the number of the process. -/
def startCommand (shell : Text → Text → Action Nat) (reads : Bool) (t : Text) :
    Action (Nat × Nat) := do
  let (_, source, sink) ← openPipe
  let (inner, outer) := if reads then (source, sink) else (sink, source)
  let run : Action Unit := do throw (.exit (← shell "/bin/sh".toList t))
  let stream ← freeStream
  let process ← start (forCommand · (if reads then 0 else 1) inner) run
  lead stream (some outer)
  return (stream, process)

/-- The status that a program is told of an ending. -/
def statusOf : Ending → Nat
  | .exited n => n
  | .killed n => 256 + n

/-- The output of a name, which is opened if it is not. It becomes the first one. -/
def outputTo (shell : Text → Text → Action Nat) (way : Destination) (name : Text) :
    Step Output := do
  let isPipe := way == .command
  let same := fun (o : Output) => o.name == name && (o.way == .command) == isPipe
  let m ← machine
  match m.outputs.find? same with
  | some o =>
      modify fun m => { m with outputs := o :: m.outputs.filter (!same ·) }
      return o
  | none =>
      let add := fun (o : Output) => do
        modify fun m => { m with outputs := o :: m.outputs }
        return o
      match way with
      | .command =>
          flushAll
          let (stream, process) ← act (startCommand shell true name)
          add { name, way, stream, process := some process }
      | _ =>
          let appends := way == .appended
          match ← act (openToWrite { keeps := appends, appends } name) with
          | .ok file =>
              let stream ← act freeStream
              act (lead stream (some file))
              add { name, way, stream }
          | .error reason =>
              stopWith ("cannot open \"".toList ++ name ++ "\" for output (".toList ++
                reason.toList ++ [')'])

/-- Prints a text. -/
def printTo (shell : Text → Text → Action Nat) (target : Option (Destination × Text)) (t : Text) :
    Step Unit := do
  match target with
  | none => printMain t
  | some (d, name) =>
      let isFile := d != .command
      if isFile && (name == "/dev/stdout".toList || name == ['-']) then printMain t
      else if isFile && name == "/dev/stderr".toList then act (writeTo 2 t)
      else
        let o ← outputTo shell d name
        let o : Output := { o with pending := t :: o.pending }
        modify fun m => { m with outputs := o :: m.outputs.drop 1 }

/-- Closes an output, and gives the status of the process that reads it. -/
def closeOutput (o : Output) : Step Nat := do
  let o ← flushOutput o
  act (lead o.stream none)
  match o.process with
  | some n => return statusOf (← act (awaitEnd n))
  | none => return 0

/-- Closes an input, and gives the status of the process that writes it. -/
def closeInput (i : Input) : Step Nat := do
  act (closeOperand i.stream)
  match i.process with
  | some n => return statusOf (← act (awaitEnd n))
  | none => return 0

/-! ## Reading -/

/-- Reads more of an input; what has been read before is put in front. -/
def Input.more (i : Input) (whole : Bool) : Step Input := do
  let r ← act (if whole then takeAll i.stream else takePiece i.stream none)
  match r with
  | .ok [] => return { i with atEnd := true }
  | .ok t => return { i with rest := i.rest ++ t, atEnd := whole }
  | .error reason => stopWith ("read error (".toList ++ reason.toList ++ [')'])

/-- The record up to a byte. -/
def recordTo (c : Char) : Nat → Input → Step (Option Text × Input)
  | 0, i => return (none, i)
  | fuel + 1, i => do
      let t := i.rest.takeWhile (· != c)
      match i.rest.drop t.length with
      | _ :: rest => return (some t, { i with rest })
      | [] =>
          if i.atEnd then
            return (if i.rest.isEmpty then none else some i.rest, { i with rest := [] })
          else recordTo c fuel (← i.more false)

/-- The next record of an input. -/
def Input.next (i : Input) : Step (Option Text × Input) := do
  match (← machine).text "RS" with
  | [c] => recordTo c pieceBound i
  | separator =>
      let i ← if i.atEnd then pure i else i.more true
      match separator with
      | [] =>
          let t := i.rest.dropWhile (· == '\n')
          if t.isEmpty then return (none, { i with rest := [] })
          let s : Regular.Subject := ⟨t.toArray, false⟩
          let gap := Regular.both (.byte '\n') (.times (.byte '\n') 1 none)
          match Regular.find? gap s 0 fun _ => true with
          | some m => return (some (t.take m.first), { i with rest := t.drop m.last })
          | none =>
              let t := if t.getLast? == some '\n' then t.dropLast else t
              return (some t, { i with rest := [] })
      | separator =>
          if i.rest.isEmpty then return (none, i)
          let r ← regularOf separator
          let s : Regular.Subject := ⟨i.rest.toArray, false⟩
          match Regular.find? r s 0 fun m => m.first != m.last with
          | some m => return (some (i.rest.take m.first), { i with rest := i.rest.drop m.last })
          | none => return (some i.rest, { i with rest := [] })

/-- Sets a variable as an argument says, with escapes replaced. -/
def assignArgument (name value : Text) : Step Unit := do
  let quoted := value ++ ['"']
  let t := ((readQuoted (quoted.length + 1) quoted).map (·.1)).getD value
  setValue (.shared (String.ofList name)) (.input t)

/-- The name and the value if an argument sets a variable. -/
def assignment? (t : Text) : Option (Text × Text) :=
  match Text.cutAt '=' t with
  | (name, some value) =>
      let isName := name.all (fun c => c.isAlphanum || c == '_') && !name.isEmpty &&
        !(name.head?.any Char.isDigit)
      if isName then some (name, value) else none
  | _ => none

/-- Opens the input that the arguments name next, if there is one. -/
def openMain : Nat → Step (Option Input)
  | 0 => return none
  | fuel + 1 => do
      let m ← machine
      let begin := fun (name : Text) (i : Input) => do
        modify fun m => { m with main := some i, anyFile := true }
        setValue (.shared "FILENAME") (.text name)
        setNumber "FNR" 0
        return some i
      let count := ((wholeOf? (m.number "ARGC")).getD 0).toNat
      if count ≤ m.used then
        if m.anyFile then return none
        begin ['-'] { name := ['-'], stream := 0 }
      else
        modify fun m => { m with used := m.used + 1 }
        let (table, _) ← tableOf (.shared "ARGV")
        let t := ((table.get? (.number m.used)).getD .unset).asText m.format
        match t, assignment? t with
        | [], _ => openMain fuel
        | _, some (name, value) =>
            assignArgument name value
            openMain fuel
        | t, none =>
            match ← act (openOperand t) with
            | .ok stream => begin t { name := t, stream }
            | .error reason =>
                stopWith ("cannot open \"".toList ++ t ++ "\" (".toList ++ reason.toList ++ [')'])

/-- The next record of the input that the rules are for. -/
def nextMain : Nat → Step (Option Text)
  | 0 => return none
  | fuel + 1 => do
      let current ← match (← machine).main with
        | some i => pure (some i)
        | none => openMain 65536
      match current with
      | none => return none
      | some i =>
          let (r, i) ← i.next
          match r with
          | some t =>
              modify fun m => { m with main := some i }
              return some t
          | none =>
              act (closeOperand i.stream)
              modify fun m => { m with main := none }
              nextMain fuel

/-- The input of a name, which is opened if it is not. -/
def inputFrom (shell : Text → Text → Action Nat) (isCommand : Bool) (name : Text) :
    Step (Option Input) := do
  match (← machine).inputs.find? fun i => i.name == name && i.process.isSome == isCommand with
  | some i => return some i
  | none =>
      if isCommand then
        flushAll
        let (stream, process) ← act (startCommand shell false name)
        return some { name, stream, process := some process }
      let path := if name == "/dev/stdin".toList then ['-'] else name
      match ← act (openOperand path) with
      | .ok stream => return some { name, stream }
      | .error _ => return none

/-- Takes note of how much of an input has been used. -/
def keepInput (i : Input) : Step Unit := modify fun m => { m with
  inputs := i :: m.inputs.filter fun j =>
    !(j.name == i.name && j.process.isSome == i.process.isSome) }

end Runbook.Shell.Scanning
