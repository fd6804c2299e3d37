import Runbook.Shell.Programs
import Runbook.Shell.Reader
import Runbook.Shell.Scanning.Run

set_option autoImplicit false

/-! # Running commands

Commands are run as actions on the state. Every step into a command takes one from a bound, so a
loop that would not end ends the process instead.

A copy of the shell that runs the last of its commands is replaced by it, unless it has traps; so a
signal that ends such a command ends the copy itself.
-/

namespace Runbook.Shell

/-- How a command is run. -/
structure Mode where
  /-- Its status is looked at by another command. -/
  tested : Bool := false
  /-- Nothing follows it in its process. -/
  final : Bool := false

/-! ## Processes and their ends -/

/-- Whether something is run on a signal or at the end of the shell. -/
def Process.hasTraps (p : Process) : Bool := p.traps.any (!·.2.isEmpty)

/-- Ends the shell if a command has failed whose status nobody looks at, and the option is on that
asks for it. -/
def endOnFailure (m : Mode) : Action Unit := do
  let p ← self
  if p.has 'e' && !m.tested && p.status != 0 then throw (.exit p.status)

/-- Says which signal has ended a process, unless it is one that users cause. -/
def mourn (ending : Ending) : Action Unit := do
  match ending with
  | .killed n => if n != 2 && n != 13 then complain (signalText n).toList
  | .exited _ => return

/-- Waits for processes that the shell has started, and gives the status of the last one. -/
def settle (numbers : List Nat) : Action Nat := do
  let s ← get
  if numbers.any s.isAlive then pause (.ends numbers none false)
  let mine := (← get).system.ended.filter fun e => numbers.contains e.process
  for e in mine do mourn e.ending
  modifySystem fun s => { s with ended := s.ended.filter fun e => !numbers.contains e.process }
  noticeAll
  let last := mine.find? fun e => some e.process == numbers.getLast?
  return (last.map (·.ending.status)).getD 0

/-- Runs an action in a copy of the shell, and gives its status. -/
def inSubshell (a : Action Unit) : Action Nat := do
  let _ ← claimNumber
  settle [← start id a]

/-- Counts a turn of a loop, and now and then lets the other processes go on. -/
def countTurn : Action Unit := do
  modifySelf fun p => { p with turns := p.turns + 1 }
  if (← self).turns % 64 == 0 then pause .turn

/-- The process as a program that it starts finds it: with nothing but the variables that are
exported, and the signals that are ignored. -/
def Process.asProgram (p : Process) : Process :=
  { p with
    store := p.store.filter fun v => v.exported && v.value.isSome
    functions := []
    options := []
    command := none
    traps := []
    ignored := p.ignored ++ (p.traps.filter (·.2.isEmpty)).map (·.1)
    saved := []
    jobs := []
    found := []
    functionLine := 0
    loops := 0
    calls := 0
    hidden := []
    aliases := []
    kept := none }

/-- The process as a new shell. -/
def Process.asShell (p : Process) (name : Text) (start : Start) : Process :=
  let given := fun (name : String) (value : Text) (p : Process) =>
    p.put { name := name.toList, value := some value }
  let p := { p with
    store := p.store.map fun v => { v with fixed := false }
    shell := p.number
    name
    arguments := start.words
    status := 0
    options := start.options
    line := 0
    background := none }
  let p := given "IFS" [' ', '\t', '\n'] p
  let p := given "OPTIND" ['1'] p
  let p := given "PPID" (Text.ofNat ((p.ancestors.head?).getD (p.number - 1))) p
  let p := given "PS1" ['#', ' '] p
  let p := given "PS2" ['>', ' '] p
  let p := given "PS4" ['+', ' '] p
  let p := if (p.value? "PATH").isSome then p else given "PATH" defaultSearch p
  { p.put { name := "PWD".toList, value := some p.path, exported := true } with
    optionIndex := 1, letters := 0 }

/-! ## Redirections -/

/-- A redirection whose word has been expanded. -/
structure Ready where
  stream : Nat
  direction : Direction
  target : Text

/-- Carries out a redirection, or tells what stands in the way. -/
def redirect (r : Ready) : Action (Option Text) := do
  let s ← get
  let t := r.target
  let use := fun (verb absent : String) (opened : Except String Nat) => do
    match opened with
    | .ok i =>
        lead r.stream (some i)
        return none
    | .error reason =>
        let isAbsent := reason == "No such file or directory" || reason == "Not a directory"
        return some ("cannot ".toList ++ verb.toList ++ ' ' :: t ++ ": ".toList ++
          (if isAbsent then absent else reason).toList)
  let create := use "create" "Directory nonexistent"
  match r.direction with
  | .inline =>
      lead r.stream (some (← openFile { target := .text t, writable := false }))
      return none
  | .copy =>
      if t == ['-'] then
        lead r.stream none
        return none
      match s.stream? (inBase 10 t) with
      | some (i, _) =>
          lead r.stream (some i)
          return none
      | none => return some (t ++ ": Bad file descriptor".toList)
  | .input => use "open" "No such file" (← openToRead t)
  | .output =>
      if s.process.has 'C' && (file? s t).isSome then create (.error "File exists")
      else create (← openToWrite {} t)
  | .override => create (← openToWrite {} t)
  | .append => create (← openToWrite { keeps := true, appends := true } t)
  | .both => create (← openToWrite { keeps := true, readable := true } t)

/-- Carries out redirections up to one that is not possible, and says whether all were. -/
def redirectEach : List Ready → Action Bool
  | [] => return true
  | r :: rest => do
      match ← redirect r with
      | none => redirectEach rest
      | some message =>
          report message
          return false

/-- Carries out redirections, keeping open what the streams have led to. -/
def redirectAll (rs : List Ready) : Action Bool := do
  let touched := rs.map (·.stream)
  modifySelf fun p => { p with
    saved := (p.streams.filter fun s => touched.contains s.1).map (·.2) ++ p.saved }
  redirectEach rs

/-- The process with the streams led back to where they led in another one. -/
def Process.leadBack (p : Process) (rs : List Ready) (old : Process) : Process :=
  let touched := rs.map (·.stream)
  { p with
    streams := old.streams.filter (fun s => touched.contains s.1) ++
      p.streams.filter fun s => !touched.contains s.1
    saved := old.saved }

/-! ## Commands by name -/

/-- The reserved words of the language. -/
def isReserved (name : Text) : Bool := Reader.reservedWords.any (·.toList == name)

/-- The commands of the shell that run other commands. -/
def innerNames : List String := ["eval", ".", "command", "exec", "wait", "type", "hash"]

/-- Whether a name is that of a command of the shell. -/
def isBuiltin (name : Text) : Bool :=
  builtins.any (·.1.toList == name) || innerNames.any (·.toList == name)

/-- Whether a name is that of a special command of the shell. -/
def isSpecialName (name : Text) : Bool := isOneOf specialNames name

/-- The words behind the command that looks for a command among the programs and the shell's own
ones alone, and whether the usual directories are to be searched; none if it only describes
commands. -/
def behindCommand : Bool → List Text → Option (Bool × List Text)
  | usual, [] => some (usual, [])
  | usual, word :: rest =>
      match word with
      | ['-', '-'] => some (usual, rest)
      | '-' :: c :: letters =>
          if (c :: letters).all (· == 'p') then behindCommand true rest else none
      | _ => some (usual, word :: rest)

/-- The name of the command that words lead to, without those before it that only say how it is
looked for. -/
def leadsTo (p : Process) : Nat → List Text → Text
  | 0, words => words.head?.getD []
  | fuel + 1, words =>
      match words with
      | name :: rest =>
          if name == "command".toList && (p.function? name).isNone then
            match behindCommand false rest with
            | some (_, more) => if more.isEmpty then name else leadsTo p fuel more
            | none => name
          else name
      | [] => []

/-- Whether the arguments of a command may be assignments. -/
def takesAssignments (p : Process) (words : List Text) : Bool :=
  isOneOf ["export", "readonly", "local"] (leadsTo p words.length words)

/-- Remembers where a program has been found by its name. -/
def remember (name path : Text) : Action Unit :=
  if name.contains '/' then return
  else modifySelf fun p =>
    if p.found.any (·.1 == name) then p else { p with found := p.found ++ [(name, path)] }

/-- Finds the program that a pipeline is about to start, to remember where it is. -/
def anticipate (c : Command) : Action Unit := do
  match c with
  | .simple _ _ (w :: _) _ =>
      let plain := w.filterMap fun part =>
        match part with
        | .char false c => some c
        | _ => none
      let s ← get
      if plain.length == w.length && isName plain && (s.process.function? plain).isNone &&
          !isBuiltin plain then
        match findProgram s (s.process.value? "PATH") plain with
        | (.program _, path) => remember plain path
        | (.script _, path) => remember plain path
        | _ => return
  | _ => return

/-- Shows where programs have been found, or looks for some. -/
def hash (arguments : List Text) : Action Nat := do
  let (options, names) ← readOptions "r" "" arguments
  if !options.isEmpty then
    modifySelf fun p => { p with found := [] }
    return 0
  if names.isEmpty then
    for (_, path) in inCells 31 (·.1) (← self).found do
      writeLine path
    return 0
  let mut status := 0
  for t in names do
    let s ← get
    if !isBuiltin t && (s.process.function? t).isNone then
      match findProgram s (s.process.value? "PATH") t with
      | (.program _, path) => remember t path
      | (.script _, path) => remember t path
      | _ =>
          report (t ++ ": not found".toList)
          status := 1
  return status

/-- Waits for jobs, or for all of them. A signal for which a trap is set ends the waiting. -/
def waitFor (arguments : List Text) : Action Nat := do
  let (_, operands) ← readOptions "" "" arguments
  -- Waits for processes, and says which signal has come before they have ended.
  let await := fun (numbers : List Nat) => do
    let s ← get
    if !numbers.any s.isAlive then return none
    pause (.ends numbers none true)
    let s ← get
    if !numbers.any s.isAlive then return none
    return (s.system.signals.find? fun (n, k) => n == s.process.number && k != 17).map (·.2)
  let markWaited := fun (number : Nat) => modifySelf fun p => { p with
    jobs := p.jobs.map fun j => if j.number == number then { j with waited := true } else j }
  if operands.isEmpty then
    if let some n ← await ((← self).jobs.flatMap (·.processes)) then return 128 + n
    for j in (← self).jobs do markWaited j.number
    noticeAll
    return 0
  let mut status := 127
  for t in operands do
    let job ← if t.head? == some '%' then some <$> jobOf t else do
      let n ← shellNumber t
      pure ((← self).jobs.find? fun j => j.processes.getLast? == some n)
    if let some j := job then
      if let some n ← await j.processes then return 128 + n
      let s ← get
      for e in s.system.ended do
        if j.processes.contains e.process && e.parent == some s.process.number && !e.noticed then
          mourn e.ending
      markWaited j.number
      noticeAll
      status := ((s.jobEnding? j).map (·.status)).getD 0
  return status

/-- Describes what a name stands for as a command; `brief` gives only what one would type. -/
def describe (brief : Bool) (search : Option Text) (name : Text) : Action Nat := do
  let s ← get
  let say := fun (long : String) => do
    writeLine (if brief then name else name ++ long.toList)
    return 0
  if isReserved name then say " is a shell keyword"
  else
    match s.process.aliases.find? (·.1 == name) with
    | some (_, value) =>
        writeLine (if brief then "alias ".toList ++ name ++ '=' :: readable value
          else name ++ " is an alias for ".toList ++ value)
        return 0
    | none =>
        if (s.process.function? name).isSome then say " is a shell function"
        else if isSpecialName name && name != "local".toList then
          say " is a special shell builtin"
        else if isBuiltin name then say " is a shell builtin"
        else
          match findProgram s search name with
          | (.missing, _) =>
              if !brief then writeLine (name ++ ": not found".toList)
              return 127
          | (.forbidden, path) =>
              if name.contains '/' && !isDirectory s name then
                writeLine (if brief then path else name ++ " is ".toList ++ path)
                return 0
              if !brief then writeLine (name ++ ": not found".toList)
              return 127
          | (_, path) =>
              let known := s.process.found.any (·.1 == name)
              remember name path
              writeLine (if brief then path
                else name ++ (if known then " is a tracked alias for " else " is ").toList ++ path)
              return 0

/-- The stream from which a shell reads what a command in a word prints. -/
def answerStream : Nat := 256

/-- How many functions may be running at once. -/
def callLimit : Nat := 1000

/-- Tells that a name is that of no command. -/
def reportMissing (name : Text) (found : Found) : Action Unit :=
  report (name ++ ": ".toList ++ (if found == .forbidden then "Permission denied".toList
    else "not found".toList))

/-! ## Evaluation -/

mutual

/-- Runs the lines of a text, the first of which has that number, and gives the status of the last
command. -/
def runText (fuel : Nat) (m : Mode) (t : Text) (line : Nat) : Action Nat :=
  match fuel with
  | 0 => throw (.exit 2)
  | fuel + 1 => runLines fuel m { rest := t, line } 0

/-- Runs the lines that are left of a source, and gives the status of the last command; `last` is
the status if there is none. -/
def runLines (fuel : Nat) (m : Mode) (source : Source) (last : Nat) : Action Nat :=
  match fuel with
  | 0 => throw (.exit 2)
  | fuel + 1 => do
      match nextLine { source with aliases := (← self).aliases } with
      | .error fault =>
          modifySelf fun p => { p with line := fault.line }
          fail ("Syntax error: ".toList ++ fault.message.toList)
      | .ok none => return last
      | .ok (some (c, rest)) =>
          let isNothing := match c with
            | .skip => true
            | _ => false
          runCommand fuel m c
          let status := (← self).status
          runLines fuel m rest (if isNothing then last else status)

/-- Runs what is set on signals that have arrived. The status stays as it was. -/
def attend (fuel : Nat) : Action Unit :=
  match fuel with
  | 0 => throw (.exit 2)
  | fuel + 1 => do
      let s ← get
      let mine := (s.system.signals.filter (·.1 == s.process.number)).map (·.2)
      match mine.mergeSort (· ≤ ·) with
      | [] => return
      | n :: _ =>
          modifySystem fun t => { t with
            signals := t.signals.filter (· != (s.process.number, n)) }
          match s.process.response n with
          | none => if isHarmless n then attend fuel else throw (.killed n)
          | some [] => attend fuel
          | some action => do
              let status := s.process.status
              ensuring (do
                modifySelf fun p => { p with kept := some (s.process.kept.getD status) }
                let _ ← runText fuel {} action s.process.line)
                fun p => { p with kept := s.process.kept }
              setStatus status
              attend fuel

/-- Runs an action as the rest of the process: whatever its end, what is set for the end of the
shell is run, and the process ends. -/
def conclude (fuel : Nat) (a : Action Unit) : Action Unit :=
  match fuel with
  | 0 => throw (.exit 2)
  | fuel + 1 => do
      let outcome := fun (ending : Except Halt Unit) (otherwise : Nat) =>
        match ending with
        | .error (.exit n) => Except.ok n
        | .error (.error n) => .ok n
        | .error (.answer n) => .ok n
        | .error (.killed n) => .error n
        | _ => .ok otherwise
      let ending ← attempt a
      match outcome ending (← self).status with
      | .error n => throw (.killed n)
      | .ok status =>
          match (← self).traps.find? (·.1 == 0) with
          | some (_, c :: action) =>
              modifySelf fun p => { p with
                traps := p.traps.filter (·.1 != 0)
                status := status % 256
                kept := some (status % 256) }
              let line := (← self).line
              let last ← attempt do
                let _ ← runText fuel {} (c :: action) line
              match last with
              | .error (.answer _) => throw (.exit status)
              | .ok () => throw (.exit status)
              | last =>
                  match outcome last status with
                  | .error n => throw (.killed n)
                  | .ok n => throw (.exit n)
          | _ => throw (.exit status)

/-- Runs a command. -/
def runCommand (fuel : Nat) (m : Mode) (c : Command) : Action Unit :=
  match fuel with
  | 0 => throw (.exit 2)
  | fuel + 1 => do
      let stand := fun (line : Nat) => modifySelf fun p => { p with
        line := if p.functionLine == 0 then line else line + 1 - p.functionLine }
      let inner : Mode := { m with final := false }
      let test : Mode := { tested := true }
      if (← self).has 'n' then return
      match c with
      | .skip => return
      | .simple line assignments words redirections => do
          stand line
          runSimple fuel m assignments words redirections
          endOnFailure m
      | .sequence first second => do
          runCommand fuel inner first
          runCommand fuel m second
      | .both first second => do
          runCommand fuel test first
          if (← self).status == 0 then runCommand fuel m second
      | .either first second => do
          runCommand fuel test first
          if (← self).status != 0 then runCommand fuel m second
      | .negation c => do
          runCommand fuel test c
          setStatus (if (← self).status == 0 then 1 else 0)
      | .pipe first second => do
          let _ ← claimNumber
          setStatus (← settle (← startAll fuel m id none (.pipe first second)))
          endOnFailure m
      | .subshell c => do
          if m.final && !(← self).hasTraps then
            conclude fuel (runCommand fuel { m with final := true } c)
          else
            setStatus (← inSubshell (conclude fuel (runCommand fuel { m with final := true } c)))
          endOnFailure m
      | .background c => do
          let nowhere ← openFile { target := .device .null }
          let numbers ← startAll fuel {} (fun p => { p with ignored := [2, 3] ++ p.ignored })
            (some nowhere) c
          addJob numbers
      | .redirected line c redirections => do
          stand line
          let rs ← readyAll fuel redirections
          let old ← self
          ensuring (do
            if ← redirectAll rs then runCommand fuel inner c else setStatus 2)
            fun p => p.leadBack rs old
          endOnFailure m
      | .branch condition yes no => do
          runCommand fuel test condition
          if (← self).status == 0 then runCommand fuel m yes
          else
            setStatus 0
            runCommand fuel m no
      | .loop expected condition body => do
          let outer := (← self).loops
          ensuring (do
            modifySelf fun p => { p with loops := outer + 1 }
            runLoop fuel inner expected condition body 0) fun p => { p with loops := outer }
      | .each line name words body => do
          stand line
          let values ← fields (substitution fuel) words
          setStatus 0
          let outer := (← self).loops
          ensuring (do
            modifySelf fun p => { p with loops := outer + 1 }
            runEach fuel inner name values body) fun p => { p with loops := outer }
      | .choice line subject cases => do
          stand line
          let t ← single (substitution fuel) subject
          runCases fuel m t cases
      | .define line name body => do
          modifySelf fun p => { p with
            functions := p.functions.filter (·.name != name) ++ [⟨name, line, body⟩]
            status := 0 }
      attend fuel

/-- Starts a command, or the commands of a pipeline, in processes changed by `f`, of which the first
reads from the open file `input` if there is one. Gives their numbers. -/
def startAll (fuel : Nat) (m : Mode) (f : Process → Process) (input : Option Nat) (c : Command) :
    Action (List Nat) :=
  match fuel with
  | 0 => throw (.exit 2)
  | fuel + 1 => do
      let fed := fun (p : Process) =>
        match input with
        | some i => (f p).lead 0 (some i)
        | none => f p
      let mode : Mode := { m with final := true }
      match c with
      | .pipe first second => do
          anticipate first
          anticipate second
          let (_, source, sink) ← openPipe
          let n ← start (fun p => (fed p).lead 1 (some sink))
            (conclude fuel (runCommand fuel mode first))
          return n :: (← startAll fuel m f (some source) second)
      | c => return [← start fed (conclude fuel (runCommand fuel mode c))]

/-- Runs a loop, `last` being the status of the body so far. -/
def runLoop (fuel : Nat) (m : Mode) (expected : Bool) (condition body : Command) (last : Nat) :
    Action Unit :=
  match fuel with
  | 0 => throw (.exit 2)
  | fuel + 1 => do
      countTurn
      match ← attempt (runCommand fuel { tested := true } condition) with
      | .error (.leave n) => if 1 < n then throw (.leave (n - 1)) else setStatus last
      | .error (.resume n) =>
          if 1 < n then throw (.resume (n - 1)) else runLoop fuel m expected condition body last
      | .error halt => throw halt
      | .ok () =>
          if ((← self).status == 0) != expected then setStatus last
          else
            match ← attempt (runCommand fuel m body) with
            | .error (.leave n) => if 1 < n then throw (.leave (n - 1))
            | .error (.resume n) =>
                if 1 < n then throw (.resume (n - 1))
                else runLoop fuel m expected condition body (← self).status
            | .error halt => throw halt
            | .ok () => runLoop fuel m expected condition body (← self).status

/-- Runs the body of a loop for each of some fields. -/
def runEach (fuel : Nat) (m : Mode) (name : Text) (values : List Text) (body : Command) :
    Action Unit :=
  match fuel with
  | 0 => throw (.exit 2)
  | fuel + 1 =>
      match values with
      | [] => return
      | value :: rest => do
          countTurn
          assign name value false
          match ← attempt (runCommand fuel m body) with
          | .error (.leave n) => if 1 < n then throw (.leave (n - 1))
          | .error (.resume n) =>
              if 1 < n then throw (.resume (n - 1)) else runEach fuel m name rest body
          | .error halt => throw halt
          | .ok () => runEach fuel m name rest body

/-- Runs the first case that has a pattern which a text matches. -/
def runCases (fuel : Nat) (m : Mode) (t : Text) (cases : List (List Word × Command)) :
    Action Unit :=
  match fuel with
  | 0 => throw (.exit 2)
  | fuel + 1 =>
      match cases with
      | [] => setStatus 0
      | (patterns, body) :: rest => do
          if ← matchesOne fuel t patterns then
            match body with
            | .skip => setStatus 0
            | body => runCommand fuel m body
          else runCases fuel m t rest

/-- Whether a text matches one of some patterns. -/
def matchesOne (fuel : Nat) (t : Text) (patterns : List Word) : Action Bool :=
  match fuel with
  | 0 => throw (.exit 2)
  | fuel + 1 =>
      match patterns with
      | [] => return false
      | w :: rest => do
          if matchesPattern (← patternFrom (substitution fuel) w) t then return true
          else matchesOne fuel t rest

/-- What a command prints when it is run in a copy of the process. -/
def substitution (fuel : Nat) (c : Command) : Action Text :=
  match fuel with
  | 0 => throw (.exit 2)
  | fuel + 1 => do
      let (_, source, sink) ← openPipe
      let _ ← claimNumber
      let n ← start (·.lead 1 (some sink))
        (conclude fuel (runCommand fuel { final := true } c))
      lead answerStream (some source)
      let t := (← takeAll answerStream).toOption.getD []
      lead answerStream none
      let status ← settle [n]
      modifySelf fun p => { p with replaced := some status }
      return t.filter (· != '\x00')

/-- Redirections with their words expanded. -/
def readyAll (fuel : Nat) (rs : List Redirection) : Action (List Ready) :=
  match fuel with
  | 0 => throw (.exit 2)
  | fuel + 1 =>
      match rs with
      | [] => return []
      | r :: rest => do
          let target ← single (substitution fuel) r.target
          if r.direction == .copy && target != ['-'] && !(target.length == 1 &&
              target.all Char.isDigit) then
            fail "Syntax error: Bad fd number".toList
          return ⟨r.stream, r.direction, target⟩ :: (← readyAll fuel rest)

/-- The fields of the words of a command. An argument of a command that sets variables is not cut
into fields if it is an assignment. -/
def expandWords (fuel : Nat) (found : List Text) (words : List Word) : Action (List Text) :=
  match fuel with
  | 0 => throw (.exit 2)
  | fuel + 1 =>
      match words with
      | [] => return found
      | w :: rest => do
          match if takesAssignments (← self) found then Reader.assignment? w else none with
          | some (name, value) =>
              let v ← assigned (substitution fuel) value
              expandWords fuel (found ++ [name ++ '=' :: v]) rest
          | none =>
              let here ← wordFields (substitution fuel) w
              expandWords fuel (found ++ here) rest

/-- Carries out assignments; those that are not to stay give back the variables as they were. -/
def assignAll (fuel : Nat) (stays exported : Bool) (assignments : List (Text × Word))
    (old : List (Text × Option Variable)) (done : List Text) :
    Action (List (Text × Option Variable) × List Text) :=
  match fuel with
  | 0 => throw (.exit 2)
  | fuel + 1 =>
      match assignments with
      | [] => return (old, done)
      | (name, w) :: rest => do
          let value ← assigned (substitution fuel) w
          let before := (← self).find? name
          match ← attempt (assign name value exported) with
          | .ok () => pure ()
          | .error halt =>
              modifySelf (·.restore old)
              throw halt
          let old := if stays || old.any (·.1 == name) then old else (name, before) :: old
          assignAll fuel stays exported rest old (done ++ [name ++ '=' :: value])

/-- Runs a simple command. Words are expanded first, then the words of redirections; then the
redirections are carried out, and then the assignments. -/
def runSimple (fuel : Nat) (m : Mode) (assignments : List (Text × Word)) (words : List Word)
    (redirections : List Redirection) : Action Unit :=
  match fuel with
  | 0 => throw (.exit 2)
  | fuel + 1 => do
      modifySelf fun p => { p with replaced := none }
      let found ← expandWords fuel [] words
      let p ← self
      let name := found.head?.getD []
      let isFunction := (p.function? name).isSome
      let special := !isFunction && isSpecialName name
      let target := leadsTo p found.length found
      let stays := found.isEmpty || special
      let isExec := target == "exec".toList && !isFunction
      let rs ← readyAll fuel redirections
      let trace := p.streams.find? (·.1 == 2)
      if !(← redirectAll rs) then
        modifySelf (·.leadBack rs p)
        setStatus 2
        if special then throw (.error 2)
      else
        let exported := !stays || (isExec && 1 < found.length)
        let (old, shown) ← assignAll fuel stays exported assignments [] []
        if p.has 'x' then
          let now ← self
          let line := ((now.value? "PS4").getD []) ++ Text.join [' '] (shown ++ found)
          modifySelf fun q => { q with
            streams := trace.toList ++ q.streams.filter (·.1 != 2) }
          complain line
          modifySelf fun q => { q with streams := now.streams }
        ensuring (if found.isEmpty then do
            let n := (← self).replaced.getD 0
            setStatus n
          else runWords fuel m special found) fun q =>
            let q := q.restore old
            if isExec then { q with saved := p.saved } else q.leadBack rs p

/-- Runs expanded words: a function, a command of the shell, or a program. An error in a command of
the shell that is not special is over with the command. -/
def runWords (fuel : Nat) (m : Mode) (special : Bool) (words : List Text) : Action Unit :=
  match fuel with
  | 0 => throw (.exit 2)
  | fuel + 1 => do
      let name := words.head?.getD []
      let arguments := words.drop 1
      let p ← self
      match if name.contains '/' then none else p.function? name with
      | some f => callFunction fuel m f arguments
      | none => runPlain fuel m special none name arguments

/-- Runs a command of the shell or a program; `search` are the directories in which programs are
searched instead of the usual ones. -/
def runPlain (fuel : Nat) (m : Mode) (special : Bool) (search : Option Text) (name : Text)
    (arguments : List Text) : Action Unit :=
  match fuel with
  | 0 => throw (.exit 2)
  | fuel + 1 => do
      let p ← self
      if name == "command".toList then
        match behindCommand false arguments with
        | some (_, []) => setStatus 0
        | some (usual, word :: rest) =>
            runPlain fuel m special (if usual then some defaultSearch else search) word rest
        | none => runBuiltin fuel special name (describeAll arguments)
      else if !name.contains '/' && isBuiltin name then
        match String.ofList name with
        | "eval" =>
            runBuiltin fuel special name
              (runText fuel { tested := m.tested } (Text.join [' '] arguments) (max p.line 1))
        | "." => runBuiltin fuel special name (runFile fuel arguments)
        | "exec" => runBuiltin fuel special name (replace fuel arguments)
        | "wait" => runBuiltin fuel special name (waitFor arguments)
        | "type" => runBuiltin fuel special name do
            let mut status := 0
            for t in arguments do
              let n ← describe false (p.value? "PATH") t
              status := if n == 0 then status else n
            return status
        | "hash" => runBuiltin fuel special name (hash arguments)
        | _ =>
            match builtins.find? (·.1.toList == name) with
            | some (_, run) => runBuiltin fuel special name (run arguments)
            | none => setStatus 127
      else
        match findProgram (← get) (search <|> p.value? "PATH") name with
        | (.missing, _) => do
            reportMissing name .missing
            setStatus 127
            if m.final && name.contains '/' then throw (.exit 127)
        | (.forbidden, _) => do
            reportMissing name .forbidden
            setStatus (if name.contains '/' then 126 else 127)
        | (found, path) => do
            remember name path
            launch fuel m found path (name :: arguments)

/-- Runs a command of the shell. -/
def runBuiltin (fuel : Nat) (special : Bool) (name : Text) (run : Action Nat) : Action Unit :=
  match fuel with
  | 0 => throw (.exit 2)
  | _ + 1 => do
      let outer := (← self).command
      let ending ← ensuring (do
        modifySelf fun p => { p with command := some name, broken := none }
        let ending ← attempt run
        if (← self).broken.isSome then
          report (name ++ ": I/O error".toList)
          return (ending.map fun n => if n % 2 == 0 then n + 1 else n)
        return ending) fun p => { p with command := outer, broken := none }
      match ending with
      | .ok n => setStatus n
      | .error (.error n) =>
          setStatus n
          if special then throw (.error n)
      | .error halt => throw halt

/-- Calls a function. -/
def callFunction (fuel : Nat) (m : Mode) (f : Function) (arguments : List Text) : Action Unit :=
  match fuel with
  | 0 => throw (.exit 2)
  | fuel + 1 => do
      let outer ← self
      if callLimit ≤ outer.calls then
        fail ("Maximum function recursion depth (" ++ toString callLimit ++ ") reached").toList
      ensuring (do
        modifySelf fun p => { p with
          arguments
          functionLine := max f.line 1
          loops := 0
          calls := p.calls + 1
          hidden := [] :: p.hidden
          optionIndex := 1
          letters := 0 }
        match ← attempt (runCommand fuel { tested := m.tested } f.body) with
        | .ok () => return
        | .error (.answer n) => setStatus n
        | .error halt => throw halt) fun p =>
          let p := { p.restore (p.hidden.head?.getD []) with hidden := outer.hidden }
          { p with
            arguments := outer.arguments
            functionLine := outer.functionLine
            loops := outer.loops
            calls := outer.calls
            optionIndex := outer.optionIndex
            letters := outer.letters }

/-- Describes commands, or gives what one would type for them. -/
def describeAll (arguments : List Text) : Action Nat := do
  let (options, names) ← readOptions "pvV" "" arguments
  let p ← self
  let search := if options.any (·.1 == 'p') then some defaultSearch else p.value? "PATH"
  let brief := lastOf ['v', 'V'] options == some 'v'
  match names.head? with
  | some t => describe brief search t
  | none => return 0

/-- Runs the commands of a file. -/
def runFile (fuel : Nat) (arguments : List Text) : Action Nat :=
  match fuel with
  | 0 => throw (.exit 2)
  | fuel + 1 => do
      let (_, operands) ← readOptions "" "" arguments
      let t := operands.head?.getD []
      let s ← get
      let search := ((s.process.value? "PATH").getD []).splitOn ':'
      let there := if t.contains '/' then some t
        else (search.map fun d => if d.isEmpty then t else inDirectory d t).find? fun path =>
          (file? s path).isSome
      match there with
      | none => fail (t ++ ": not found".toList)
      | some path =>
          match look? s path with
          | none =>
              let reason := absence s path
              let shown := if reason == "Not a directory" || reason == "No such file or directory"
                then "No such file" else reason
              fail ("cannot open ".toList ++ path ++ ": ".toList ++ shown.toList)
          | some .directory => return 0
          | some (.file bytes _) =>
              let outer ← self
              ensuring (do
                modifySelf fun p => { p with command := some path, functionLine := 0 }
                match ← attempt (runText fuel {} (textOf bytes) 1) with
                | .ok n => return n
                | .error (.answer n) => return n
                | .error halt => throw halt)
                fun p => { p with functionLine := outer.functionLine, line := outer.line }

/-- Puts a program in the place of the shell. -/
def replace (fuel : Nat) (arguments : List Text) : Action Nat :=
  match fuel with
  | 0 => throw (.exit 2)
  | fuel + 1 => do
      let (_, operands) ← readOptions "" "" arguments
      match operands with
      | [] => return 0
      | name :: rest =>
          let p ← self
          match findProgram (← get) (p.value? "PATH") name with
          | (.missing, _) =>
              reportMissing name .missing
              throw (.exit 127)
          | (.forbidden, _) =>
              reportMissing name .forbidden
              throw (.exit 126)
          | (found, path) =>
              modifySelf fun p => { p with traps := p.traps.filter (·.2.isEmpty) }
              launch fuel { final := true } found path (name :: rest)
              throw (.exit (← self).status)

/-- Runs a program in a process of its own, or in the place of one that has nothing else to do. -/
def launch (fuel : Nat) (m : Mode) (found : Found) (path : Text) (words : List Text) :
    Action Unit :=
  match fuel with
  | 0 => throw (.exit 2)
  | fuel + 1 => do
      let run : Action Unit := do
        let n ← runProgram fuel found path words
        throw (.exit n)
      if m.final && !(← self).hasTraps then
        match ← attempt run with
        | .error (.error n) => throw (.exit n)
        | .error halt => throw halt
        | .ok () => return
      else
        setStatus (← inSubshell run)

/-- Runs a program in the process. -/
def runProgram (fuel : Nat) (found : Found) (path : Text) (words : List Text) : Action Nat :=
  match fuel with
  | 0 => throw (.exit 2)
  | fuel + 1 => do
      modifySelf (·.asProgram)
      let name := words.head?.getD []
      let arguments := words.drop 1
      match found with
      | .script bytes =>
          match interpreter? bytes with
          | some (program :: options) =>
              match foundAt (← get) program with
              | .missing => do
                  reportMissing name .missing
                  return 127
              | .forbidden => do
                  reportMissing name .forbidden
                  return 126
              | other => runProgram fuel other program (program :: options ++ path :: arguments)
          | _ => runShell fuel name (path :: arguments)
      | .program known =>
          let run ← match String.ofList known with
            | "sh" => pure (runShell fuel name arguments)
            | "dash" => pure (runShell fuel name arguments)
            | "bash" => pure (runShell fuel name arguments)
            | "env" => pure (runEnvironment fuel arguments)
            | "xargs" => pure (runOnInput fuel arguments)
            | "find" => pure (runFind fuel arguments)
            | "nohup" => pure (runAfter fuel "nohup" arguments)
            | "nice" => pure (runAfter fuel "nice" arguments)
            | "timeout" => pure (runLimited fuel arguments)
            | "awk" => pure (runScan fuel arguments)
            | "mawk" => pure (runScan fuel arguments)
            | "which" => do
                let p ← self
                pure do
                  let mut status := 0
                  for t in arguments do
                    match findProgram (← get) (p.value? "PATH") t with
                    | (.missing, _) => status := 1
                    | (.forbidden, _) => status := 1
                    | (_, path) => writeLine path
                  return status
            | _ => pure ((utility? known).getD (fun _ => return 127) arguments)
          modifySelf fun p => { p with broken := none }
          let n ← run
          match (← self).broken with
          | some reason =>
              if (utility? known).isSome then
                let name := String.ofList known
                for t in lossOf name reason do complain t.toList
                return max n (failureOf name)
              return n
          | none => return n
      | _ => return 127

/-- Runs a program that another one was asked to run, in a process of its own changed by `f`: its
status, and whether it could be run. -/
def runOther (fuel : Nat) (who : String) (missing : Text → Text) (f : Process → Process)
    (words : List Text) : Action (Nat × Bool) :=
  match fuel with
  | 0 => throw (.exit 2)
  | fuel + 1 => do
      let name := words.head?.getD []
      match findProgram (← get) ((← self).value? "PATH") name with
      | (.missing, _) =>
          complainAs who (missing name ++ ": No such file or directory".toList)
          return (127, false)
      | (.forbidden, _) =>
          complainAs who (missing name ++ ": Permission denied".toList)
          return (126, false)
      | (found, path) =>
          let n ← start f do
            let n ← runProgram fuel found path words
            throw (.exit n)
          return ((← awaitEnd n).status, true)

/-- Runs a program in the place of another one that was asked to run it. -/
def runInstead (fuel : Nat) (who : String) (words : List Text) : Action Nat :=
  match fuel with
  | 0 => throw (.exit 2)
  | fuel + 1 => do
      let name := words.head?.getD []
      let cannot := fun (reason : String) =>
        complainAs who ("failed to run command ".toList ++ quoted name ++ ": ".toList ++
          reason.toList)
      match findProgram (← get) ((← self).value? "PATH") name with
      | (.missing, _) =>
          cannot "No such file or directory"
          return 127
      | (.forbidden, _) =>
          cannot "Permission denied"
          return 126
      | (found, path) => runProgram fuel found path words

/-- Runs a program in the place of another one that only changes how it runs. -/
def runAfter (fuel : Nat) (who : String) (arguments : List Text) : Action Nat :=
  match fuel with
  | 0 => throw (.exit 2)
  | fuel + 1 => do
      let kinds : OptionKinds := ⟨"v", if who == "nice" then "n" else "",
        if who == "nice" then [("adjustment", 'n')] else []⟩
      match readGiven kinds true arguments with
      | .error message => misused who message 125
      | .ok g =>
          match g.operands with
          | [] =>
              if who == "nice" then
                writeLine ['0']
                return 0
              misused who "missing operand".toList 125
          | words =>
              if who == "nohup" then modifySelf fun p => { p with ignored := 1 :: p.ignored }
              runInstead fuel who words

/-- Runs a program that scans records. A shell runs the commands that the program asks for. -/
def runScan (fuel : Nat) (arguments : List Text) : Action Nat :=
  match fuel with
  | 0 => throw (.exit 2)
  | fuel + 1 =>
      Scanning.scan (fun name t => runShell fuel name ["-c".toList, t]) arguments

/-- Runs a program for a limited time. -/
def runLimited (fuel : Nat) (arguments : List Text) : Action Nat :=
  match fuel with
  | 0 => throw (.exit 2)
  | fuel + 1 => do
      let kinds : OptionKinds := ⟨"v", "ks", [("signal", 's'), ("kill-after", 'k'),
        ("preserve-status", 'p'), ("foreground", 'f'), ("verbose", 'v')]⟩
      let badTime := fun (t : Text) =>
        misused "timeout" ("invalid time interval ".toList ++ quoted t) 125
      let signalOf? := fun (t : Text) =>
        let upper := t.map Char.toUpper
        signal? 0 (if "SIG".toList.isPrefixOf upper then upper.drop 3 else upper)
      match readGiven kinds true arguments with
      | .error message => misused "timeout" message 125
      | .ok g =>
          match (g.values 's').find? fun t => (signalOf? t).isNone with
          | some t =>
              complainAs "timeout" (quoted t ++ ": invalid signal".toList)
              complain "Try 'timeout --help' for more information.".toList
              return 125
          | none =>
          match (g.values 'k').find? (duration? · |>.isNone) with
          | some t => badTime t
          | none =>
          match g.operands with
          | t :: name :: rest =>
              match duration? t with
              | none => badTime t
              | some limit =>
                  let signal := ((g.value? 's').bind signalOf?).getD 15
                  let number ← start id do
                    let n ← runInstead fuel "timeout" (name :: rest)
                    throw (.exit n)
                  let expires := fun (after : Nat) => do
                    if after != 0 && (← get).isAlive number then
                      pause (.ends [number] (some ((← clock) + after)) false)
                    return after != 0 && (← get).isAlive number
                  let strike := fun (signal : Nat) => do
                    let s ← get
                    for q in s.system.others do
                      if q.ancestors.contains s.process.number then
                        let _ ← send q.number signal
                        if signal != 9 then let _ ← send q.number 18
                    if signal == 9 then throw (.killed 9)
                  let late ← expires limit
                  if late then
                    strike signal
                    if ← expires (((g.value? 'k').bind duration?).getD 0) then strike 9
                  match ← awaitEnd number with
                  | .killed n =>
                      if late then return if g.has 'p' then 128 + n else 124
                      throw (.killed n)
                  | .exited n => return if late && !g.has 'p' then 124 else n
          | _ =>
              complain "Try 'timeout --help' for more information.".toList
              return 125

/-- Runs a program with other variables, or prints them. -/
def runEnvironment (fuel : Nat) (arguments : List Text) : Action Nat :=
  match fuel with
  | 0 => throw (.exit 2)
  | fuel + 1 => do
      let kinds : OptionKinds := ⟨"i0v", "uCS", [("ignore-environment", 'i'), ("unset", 'u'),
        ("chdir", 'C')]⟩
      match readGiven kinds true arguments with
      | .error message => misused "env" message 125
      | .ok g =>
          let fresh := g.has 'i' || g.operands.head? == some ['-']
          let operands := if g.operands.head? == some ['-'] then g.operands.drop 1 else g.operands
          let isAssignment := fun (t : Text) => t.contains '=' && t.head? != some '='
          let assigned := operands.takeWhile isAssignment
          modifySelf fun p =>
            let p := if fresh then { p with store := [] } else p
            let p := (g.values 'u').foldl Process.forget p
            assigned.foldl (fun p t =>
              let (name, value) := Text.cutAt '=' t
              p.set name (value.getD []) true) p
          if let some dir := g.value? 'C' then
            if !(← enter true dir) then
              complainAs "env" ("cannot change directory to ".toList ++ quoted dir ++ ": ".toList ++
                (absence (← get) dir).toList)
              return 125
          match operands.drop assigned.length with
          | [] => printEnvironment []
          | name :: rest =>
              let search := ((← self).value? "PATH") <|> some "/bin:/usr/bin".toList
              match findProgram (← get) search name with
              | (.missing, _) =>
                  complainAs "env" (quoted name ++ ": No such file or directory".toList)
                  return 127
              | (.forbidden, _) =>
                  complainAs "env" (quoted name ++ ": Permission denied".toList)
                  return 126
              | (found, path) => runProgram fuel found path (name :: rest)

/-- Runs a program with words of the standard input as arguments. -/
def runOnInput (fuel : Nat) (arguments : List Text) : Action Nat :=
  match fuel with
  | 0 => throw (.exit 2)
  | fuel + 1 => do
      let kinds : OptionKinds := ⟨"0rtx", "ndILPsEa", [("null", '0'), ("no-run-if-empty", 'r'),
        ("max-args", 'n'), ("delimiter", 'd'), ("replace", 'I'), ("max-lines", 'L'),
        ("max-procs", 'P')]⟩
      match readGiven kinds true arguments with
      | .error message => misused "xargs" message 1
      | .ok g =>
          let input ← takeInput
          let number := fun (c : Char) => ((g.value? c).map (inBase 10)).filter (0 < ·)
          let delimiter := if g.has '0' then some '\x00'
            else (g.value? 'd').map fun t => match t with
              | ['\\', 'n'] => '\n'
              | ['\\', '0'] => '\x00'
              | ['\\', 't'] => '\t'
              | t => t.head?.getD '\n'
          let mark := g.value? 'I'
          let trimmed := fun (l : Text) => l.dropWhile fun c => c == ' ' || c == '\t'
          let items : Except Char (List Text) := match delimiter with
            | some c =>
                let pieces := input.splitOn c
                .ok (if pieces.getLast? == some [] then pieces.dropLast else pieces)
            | none =>
                if mark.isSome then
                  .ok (((linesIn input).map trimmed).filter (!·.isEmpty))
                else inputWords (input.length + 1) none input
          match items with
          | .error c =>
              let kind := if c == '"' then "double" else "single"
              complainAs "xargs" ("unmatched " ++ kind ++ " quote; by default quotes are " ++
                "special to xargs unless you use the -0 option").toList
              return 1
          | .ok items =>
              let command := if g.operands.isEmpty then ["echo".toList] else g.operands
              let groups := match mark, number 'n', number 'L' with
                | some mark, _, _ => items.map fun i =>
                    command.map fun w => replacing mark i (w.length + 1) w
                | none, some n, _ => (piecesOfSize n (items.length + 1) items).map (command ++ ·)
                | none, none, some n =>
                    let rows := (linesIn input).filter fun l => !(trimmed l).isEmpty
                    (piecesOfSize n (rows.length + 1) rows).map fun ls =>
                      let t := Text.join ['\n'] ls
                      command ++ ((inputWords (t.length + 1) none t).toOption.getD [])
                | none, none, none => [command ++ items]
              let groups := if items.isEmpty && (g.has 'r' || mark.isSome) then []
                else if items.isEmpty && groups.isEmpty then [command] else groups
              let nowhere ← openFile { target := .device .null }
              let mut status := 0
              for words in groups do
                let (n, ran) ← runOther fuel "xargs" id (·.lead 0 (some nowhere)) words
                if !ran then return n
                if n == 255 then
                  complainAs "xargs" (command.head?.getD [] ++
                    ": exited with status 255; aborting".toList)
                  return 124
                if 128 < n && n < 128 + 65 then
                  complainAs "xargs" (command.head?.getD [] ++ ": terminated by signal ".toList ++
                    Text.ofNat (n - 128))
                  return 125
                status := if n == 0 then status else 123
              return status

/-- Looks for files, and does with them what it is asked to. -/
def runFind (fuel : Nat) (arguments : List Text) : Action Nat :=
  match fuel with
  | 0 => throw (.exit 2)
  | fuel + 1 => do
      let arguments := arguments.dropWhile fun t => ["-L", "-P", "-H"].any (·.toList == t)
      let begins := fun (t : Text) =>
        (t.head? == some '-' && 1 < t.length) || t == ['('] || t == ['!']
      let starts := arguments.takeWhile (!begins ·)
      let words := arguments.drop starts.length
      let starts := if starts.isEmpty then [['.']] else starts
      let limit := fun (name : String) =>
        ((words.dropWhile (· != name.toList)).drop 1).head?.map (inBase 10)
      match Criterion.ofWords (← clock) words with
      | .error f =>
          complainAs "find" f.message
          if let .misplaced t := f then
            let before := (words.takeWhile (· != t)).filter (·.head? == some '-')
            if let some w := before.getLast? then
              complainAs "find" ("possible unquoted pattern after predicate \x60".toList ++ w ++
                "'?".toList)
          return 1
      | .ok c =>
          let s ← get
          if let some t := c.references.find? fun t => (changed? s t).isNone then
            complainOf "find" "" (quoted t) (absence s t)
            return 1
          let c := if c.acts then c else .both c (.print '\n')
          let inner := ["-delete", "-depth", "-d"].any fun w => words.contains w.toList
          let least := (limit "-mindepth").getD 0
          let most := (limit "-maxdepth").getD 64
          let mut status := 0
          let mut found : Findings := {}
          for t in starts do
            let s ← get
            if found.isDone then break
            match place? s t with
            | some (.entry names _) =>
                found ← visit fuel c inner least (most + 1) 0 names t t found
            | some _ => if c.acts && least == 0 then writeLine t
            | none =>
                complainOf "find" "" (quoted t) (absence s t)
                status := 1
          for (command, files) in found.gathered do
            let (n, _) ← runOther fuel "find" quoted id (command ++ files)
            status := if n == 0 then status else 1
          return if found.failed then 1 else status

/-- Visits a file and what lies below it. -/
def visit (fuel : Nat) (c : Criterion) (inner : Bool) (least left depth : Nat) (names : List Text)
    (shown start : Text) (found : Findings) : Action Findings :=
  match fuel, left with
  | 0, _ => throw (.exit 2)
  | _, 0 => return found
  | fuel + 1, left + 1 => do
      let s := (← get).system
      match s.tree.entry? names with
      | none => return found
      | some e =>
          let look := fun (found : Findings) => do
            if depth < least || found.isDone then return found
            let facts := (← get).system.facts names e
            return (← meets fuel c { names, shown, start, depth, facts } found).2
          let descend := fun (found : Findings) => do
            if e != .directory || found.pruned == some names || found.isDone then return found
            let s := (← get).system
            if (s.tree.entry? names).isNone then
              if 1 < left + 1 then
                complainOf "find" "" (quoted shown) "No such file or directory"
                return { found with failed := true }
              return found
            let mut found := found
            for n in sortedNames s.tree names do
              found ← visit fuel c inner least left (depth + 1) (names ++ [n])
                (inDirectory shown (inward n)) start found
            return found
          if inner then look (← descend found) else descend (← look found)

/-- Whether a file meets a criterion, which may do something with it, and what has been found by
then. -/
def meets (fuel : Nat) (c : Criterion) (l : Looked) (found : Findings) :
    Action (Bool × Findings) :=
  match fuel with
  | 0 => throw (.exit 2)
  | fuel + 1 => do
      let s ← get
      match c.answer? s l, c with
      | some answer, _ => return (answer, found)
      | none, .print last =>
          write (l.shown ++ [last])
          return (true, found)
      | none, .format t =>
          write (l.formatted (t.length + 1) t)
          return (true, found)
      | none, .delete =>
          if l.shown == ['.'] then return (true, found)
          if l.facts.kind == 'd' && !(s.system.tree.namesIn l.names).isEmpty then
            complainOf "find" "cannot delete " (quoted l.shown) "Directory not empty"
            return (false, { found with failed := true })
          removeEntry l.names
          return (true, found)
      | none, .run words together =>
          if together then return (true, found.gather words l.shown)
          let filled := words.map fun w => replacing "\x7b\x7d".toList l.shown (w.length + 1) w
          let (n, _) ← runOther fuel "find" quoted id filled
          return (n == 0, found)
      | none, .prune => return (true, { found with pruned := some l.names })
      | none, .quit => return (true, { found with isDone := true })
      | none, .negation a =>
          let (r, found) ← meets fuel a l found
          return (!r, found)
      | none, .both a b =>
          let (r, found) ← meets fuel a l found
          if r && !found.isDone then meets fuel b l found else return (false, found)
      | none, .either a b =>
          let (r, found) ← meets fuel a l found
          if r || found.isDone then return (true, found) else meets fuel b l found
      | none, .sequence a b =>
          let (_, found) ← meets fuel a l found
          if found.isDone then return (true, found) else meets fuel b l found
      | none, _ => return (false, found)

/-- Runs the shell as a program, and gives its status. -/
def runShell (fuel : Nat) (name : Text) (arguments : List Text) : Action Nat :=
  match fuel with
  | 0 => throw (.exit 2)
  | fuel + 1 => do
      modifySelf fun p => { p with name, line := 0 }
      match readStart {} arguments with
      | .error message => fail message
      | .ok start =>
          modifySelf (·.asShell name start)
          if start.isCommand then
            match start.words with
            | [] => fail "-c requires an argument".toList
            | source :: rest =>
                modifySelf fun p => { p with
                  name := rest.head?.getD name
                  arguments := rest.drop 1 }
                conclude fuel do
                  setStatus (← runText fuel {} source 1)
          else if start.words.isEmpty || start.options.contains 's' then
            let source ← takeInput
            conclude fuel do
              setStatus (← runText fuel {} source 1)
          else
            let file := start.words.head?.getD []
            let s ← get
            match look? s file with
            | some (.file bytes _) =>
                modifySelf fun p => { p with name := file, arguments := start.words.drop 1 }
                conclude fuel do
                  setStatus (← runText fuel {} (textOf bytes) 1)
            | some .directory => return 0
            | none =>
                let reason := absence s file
                let shown := if reason == "Not a directory" || reason == "No such file or directory"
                  then "No such file" else reason
                fail ("cannot open ".toList ++ file ++ ": ".toList ++ shown.toList)
          return (← self).status

end

end Runbook.Shell
