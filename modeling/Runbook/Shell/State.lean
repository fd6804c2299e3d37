import Runbook.FileTree
import Runbook.Shell.Syntax
import Runbook.Text.Utf8

set_option autoImplicit false

/-! # Processes and the system they run in

A shell is a process: it has a directory, variables and arguments, functions, traps and streams.
A process that it starts has a copy of these. What all processes share is the *system*: the file
tree, the open files and pipes, the signals that have been sent, and the time. A process sees of
the other processes only what is listed of them in the system.
-/

namespace Runbook.Shell

/-! ## Bytes -/

/-- The text inside a shell that stands for a text outside. -/
def inward (t : Text) : Text := (Utf8.encode t).map fun b => Char.ofNat b.toNat

/-- The bytes of a text inside a shell. -/
def bytesOf (t : Text) : List UInt8 := t.map fun c => c.toNat.toUInt8

/-- The text inside a shell that bytes make. -/
def textOf (bytes : List UInt8) : Text := bytes.map fun b => Char.ofNat b.toNat

/-- The text outside that a text inside a shell stands for; none if it is none. -/
def outward? (t : Text) : Option Text := (Utf8.decode (bytesOf t)).toOption

/-! ## Processes -/

/-- A variable. It may be there without a value. -/
structure Variable where
  name : Text
  value : Option Text
  exported : Bool := false
  fixed : Bool := false

/-- A function of the shell. -/
structure Function where
  name : Text
  line : Nat
  body : Command

/-- Commands that a shell has started in the background. -/
structure Job where
  /-- The number by which the shell knows the job. -/
  number : Nat
  /-- The processes of the job, the one last whose status counts. -/
  processes : List Nat
  /-- Whether the shell has been told to wait for the job. -/
  waited : Bool := false

/-- A process. -/
structure Process where
  /-- The number of the process. -/
  number : Nat
  /-- The number of the shell that it is a copy of, or its own. -/
  shell : Nat
  /-- The numbers of the process that has started it, of the one that has started that, and so
  on. -/
  ancestors : List Nat := []
  /-- The names of the working directory from the root. -/
  directory : List Text
  store : List Variable
  functions : List Function := []
  name : Text := "sh".toList
  arguments : List Text := []
  /-- The status of the last command. -/
  status : Nat := 0
  /-- The status of the last command that was run inside a word of the current command. -/
  replaced : Option Nat := none
  /-- The letters of the options that are on. -/
  options : List Char := []
  /-- The command of the shell that is being run, as messages name it. -/
  command : Option Text := none
  /-- The number of the open file that each stream leads to. -/
  streams : List (Nat × Nat) := []
  /-- The open files to which streams lead again behind the current command. -/
  saved : List Nat := []
  /-- What is run on a signal, and, as number zero, at the end. -/
  traps : List (Nat × Text) := []
  /-- The signals that were ignored when the process began. They stay so whatever traps are set. -/
  ignored : List Nat := []
  /-- While such a command is run, the status that there was before. -/
  kept : Option Nat := none
  aliases : List (Text × Text) := []
  /-- The paths of the programs that have been found by name. -/
  found : List (Text × Text) := []
  /-- The number of the current line. -/
  line : Nat := 1
  /-- The line on which the current function begins. -/
  functionLine : Nat := 0
  /-- How many loops and functions are being run. -/
  loops : Nat := 0
  calls : Nat := 0
  /-- How many turns loops have made. -/
  turns : Nat := 0
  /-- The variables that the functions being run have made their own, as they were before. -/
  hidden : List (List (Text × Option Variable)) := []
  /-- The number of the last process that was started in the background. -/
  background : Option Nat := none
  /-- The jobs, the one that was started last first. -/
  jobs : List Job := []
  /-- The number of the argument that is read next as an option, and how much of the one before
  has been read. -/
  optionIndex : Nat := 1
  letters : Nat := 0
  /-- Why something could not be written. -/
  broken : Option String := none
  /-- The bits that new files do not get. -/
  mask : Nat := 18

/-! ## The system -/

/-- A device. -/
inductive Device where
  /-- It is empty, and swallows what is written. -/
  | null
  /-- It holds zeros without end. -/
  | zero
  /-- It holds zeros without end, and has no room for anything. -/
  | full
  /-- It holds bytes that cannot be foreseen. -/
  | random
  deriving DecidableEq, Repr

/-- What an open file is. -/
inductive Target where
  | device (d : Device)
  | file (names : List Text)
  /-- A text that is there to be read. -/
  | text (bytes : Text)
  /-- The end of a pipe that is read from. -/
  | source (pipe : Nat)
  /-- The end of a pipe that is written to. -/
  | sink (pipe : Nat)
  deriving DecidableEq, Repr

/-- An open file, and the place in it. -/
structure OpenFile where
  target : Target
  offset : Nat := 0
  readable : Bool := true
  writable : Bool := true
  appends : Bool := false

/-- The bytes in a pipe: those that are read next, and behind them what was written later, the
last piece first. -/
structure Pipe where
  front : Text := []
  back : List Text := []
  size : Nat := 0

namespace Pipe

/-- How many bytes a pipe takes before one that writes to it has to wait. -/
def capacity : Nat := 65536

/-- The bytes in the pipe. -/
def bytes (p : Pipe) : Text := p.front ++ p.back.reverse.flatten

/-- The pipe with bytes put in. -/
def push (p : Pipe) (t : Text) : Pipe :=
  { p with back := t :: p.back, size := p.size + t.length }

/-- The pipe with all its bytes at the front. -/
def gathered (p : Pipe) : Pipe :=
  if p.back.isEmpty then p else { front := p.bytes, back := [], size := p.size }

/-- The pipe without its first bytes. -/
def drop (p : Pipe) (n : Nat) : Pipe :=
  let q := p.gathered
  { q with front := q.front.drop n, size := q.size - n }

end Pipe

/-- How a process has ended. -/
inductive Ending where
  | exited (status : Nat)
  | killed (signal : Nat)
  deriving DecidableEq, Repr

/-- The status that a shell gives to a process that has ended. -/
def Ending.status : Ending → Nat
  | exited n => n
  | killed n => 128 + n

/-- A process that has ended and that the process which started it has not asked for. -/
structure Ended where
  process : Nat
  parent : Option Nat
  ending : Ending
  /-- Whether the process that started it has waited for another one since then. -/
  noticed : Bool := false

/-- When the first process begins. -/
def startClock : Nat := 1735689600000000

/-- What all processes share. -/
structure System where
  tree : FileTree
  files : Array OpenFile := #[]
  pipes : Array Pipe := #[]
  /-- The number of the last process. -/
  lastNumber : Nat
  /-- The signals that processes have been sent and have not yet looked at. -/
  signals : List (Nat × Nat) := []
  /-- The processes that have been stopped and not told to go on. -/
  stopped : List Nat := []
  ended : List Ended := []
  /-- The processes besides the one that is running. -/
  others : List Process := []
  /-- The time in millionths of a second since the year 1970. -/
  clock : Nat := startClock
  /-- When files have been changed; files that are not here are older than the system. -/
  times : List (List Text × Int) := []
  /-- The names of the files that have more than one. -/
  links : List (List (List Text)) := []
  /-- The permissions of entries that do not have the usual ones. -/
  modes : List (List Text × Nat) := []

/-- A process and the system it runs in. -/
structure State where
  process : Process
  system : System

/-! ## Variables -/

namespace Process

/-- The variable of a name. -/
def find? (p : Process) (name : Text) : Option Variable := p.store.find? (·.name == name)

/-- The value of a variable. -/
def value? (p : Process) (name : String) : Option Text :=
  (p.find? name.toList).bind (·.value)

/-- Whether an option is on. -/
def has (p : Process) (option : Char) : Bool := p.options.contains option

/-- The process with a variable put in the place of the one of its name. -/
def put (p : Process) (v : Variable) : Process :=
  if p.store.any (·.name == v.name) then
    { p with store := p.store.map fun w => if w.name == v.name then v else w }
  else { p with store := p.store ++ [v] }

/-- The process with a variable set, whether or not it is fixed. A variable that was exported
stays so. Where programs have been found is forgotten when it is set where to look for them. -/
def set (p : Process) (name value : Text) (exported : Bool) : Process :=
  let old := p.find? name
  let exported := exported || p.has 'a' || old.any (·.exported)
  let p := if name == "OPTIND".toList then
      let n := value.foldl (fun n c => n * 10 + (c.toNat - '0'.toNat)) 0
      { p with optionIndex := max n 1, letters := 0 }
    else if name == "PATH".toList then { p with found := [] }
    else p
  p.put { name, value := some value, exported, fixed := old.any (·.fixed) }

/-- The process without a variable. -/
def forget (p : Process) (name : Text) : Process :=
  { p with store := p.store.filter (·.name != name) }

/-- The process with variables put back as they were; none stands for one that was not there. -/
def restore (p : Process) (old : List (Text × Option Variable)) : Process :=
  old.foldl (fun p (name, v) =>
    match v with
    | some v => p.put v
    | none => p.forget name) p

/-- The variables that another program is given. -/
def environment (p : Process) : List (Text × Text) :=
  p.store.filterMap fun v => if v.exported then v.value.map (v.name, ·) else none

/-- The function of a name. -/
def function? (p : Process) (name : Text) : Option Function :=
  p.functions.find? (·.name == name)

/-- The path of the working directory. -/
def path (p : Process) : Text := inward ('/' :: Text.join ['/'] p.directory)

end Process

/-! ## Open files -/

/-- Whether a process holds something open. -/
def Process.holds (p : Process) (files : Array OpenFile) (t : Target) : Bool :=
  let isOpen := fun (i : Nat) => (files[i]?).any (·.target == t)
  p.streams.any (isOpen ·.2) || p.saved.any isOpen

/-- Whether any process holds something open. -/
def State.isHeld (s : State) (t : Target) : Bool :=
  s.process.holds s.system.files t || s.system.others.any (·.holds s.system.files t)

/-- The file that a stream of a process leads to, with its number. -/
def State.stream? (s : State) (n : Nat) : Option (Nat × OpenFile) :=
  (s.process.streams.find? (·.1 == n)).bind fun (_, i) => s.system.files[i]?.map (i, ·)

/-! ## Files -/

namespace System

/-- All names of the file that has a name. -/
def namesOf (s : System) (names : List Text) : List (List Text) :=
  (s.links.find? (·.contains names)).getD [names]

/-- When a file was last changed. -/
def timeOf (s : System) (names : List Text) : Int :=
  ((s.times.find? (·.1 == names)).map (·.2)).getD ((startClock : Int) - 10000)

/-- The moment that files are marked with that are changed now. It comes in steps of some
thousandths of a second. -/
def stamp (s : System) : Int := (s.clock / 4000 * 4000 : Nat)

/-- The system with a file marked as changed at a moment. -/
def mark (s : System) (names : List Text) (moment : Int) : System :=
  let all := s.namesOf names
  { s with times := all.map (·, moment) ++ s.times.filter (!all.contains ·.1) }

/-- The system with a file changed now, under all of its names. -/
def setEntry (s : System) (names : List Text) (e : Entry) : System :=
  let t : System := { s with tree := (s.namesOf names).foldl (fun tree n => tree.put n e) s.tree }
  t.mark names s.stamp

/-- The permissions that entries usually have. -/
def usualMode (e : Entry) : Nat :=
  match e with
  | .file _ false => 0o644
  | _ => 0o755

/-- The permissions of an entry. -/
def modeOf (s : System) (names : List Text) : Nat :=
  match s.modes.find? (·.1 == names) with
  | some (_, mode) => mode
  | none => ((s.tree.entry? names).map usualMode).getD 0

/-- The system with other permissions for an entry, under all of its names. A file can be run if
anyone may run it. -/
def setMode (s : System) (names : List Text) (mode : Nat) : System :=
  let all := s.namesOf names
  let runnable := Nat.land mode 0o111 != 0
  let tree := all.foldl (fun tree n =>
    match tree.entry? n with
    | some (.file bytes old) => if old == runnable then tree else tree.put n (.file bytes runnable)
    | _ => tree) s.tree
  { s with tree, modes := all.map (·, mode) ++ s.modes.filter (!all.contains ·.1) }

/-- The system without an entry and all that lies below it. -/
def remove (s : System) (names : List Text) : System :=
  let isLeft := fun (n : List Text) => !names.isPrefixOf n
  let t : System := { s with
    tree := s.tree.remove names
    times := s.times.filter (isLeft ·.1)
    modes := s.modes.filter (isLeft ·.1)
    links := (s.links.map fun all => all.filter isLeft).filter (1 < ·.length) }
  t.mark names.dropLast s.stamp

/-- The system with a new entry, whatever stood in its place. -/
def add (s : System) (names : List Text) (e : Entry) : System :=
  let t : System := { s with
    tree := s.tree.put names e
    modes := s.modes.filter (·.1 != names)
    links := (s.links.map fun all => all.filter (· != names)).filter (1 < ·.length) }
  (t.mark names s.stamp).mark names.dropLast s.stamp

/-- The system with a new entry whose permissions are those of a number that are not in a mask. -/
def make (s : System) (names : List Text) (e : Entry) (wanted mask : Nat) : System :=
  let mode := wanted - Nat.land wanted mask
  let t := s.add names e
  if mode == usualMode e then t else t.setMode names mode

/-- The system with another name for a file, which is the name of nothing else. -/
def join (s : System) (names other : List Text) : System :=
  match s.tree.entry? names with
  | some e =>
      let time := s.timeOf names
      let mode := s.modeOf names
      let all := s.namesOf names
      let t := s.add other e
      let t : System := { t with links := (all ++ [other]) :: t.links.filter (· != all) }
      (t.mark other time).setMode other mode
  | none => s

/-- The system with what stands at one place and below it moved to another one, where nothing
stands. -/
def move (s : System) (source target : List Text) : System :=
  let moved := fun (n : List Text) =>
    if source.isPrefixOf n then target ++ n.drop source.length else n
  let t : System := { s with
    tree := ⟨s.tree.entries.map fun (n, e) => (moved n, e)⟩
    times := s.times.map fun (n, time) => (moved n, time)
    modes := s.modes.map fun (n, mode) => (moved n, mode)
    links := s.links.map fun all => all.map moved }
  (t.mark source.dropLast s.stamp).mark target.dropLast s.stamp

end System

/-! ## Pipes -/

/-- A pipe of the system. -/
def System.pipe (s : System) (n : Nat) : Pipe := (s.pipes[n]?).getD {}

/-- The system with a pipe changed. -/
def System.setPipe (s : System) (n : Nat) (p : Pipe) : System :=
  { s with pipes := s.pipes.setIfInBounds n p }

/-- The system with an open file changed. -/
def System.setFile (s : System) (i : Nat) (f : OpenFile) : System :=
  { s with files := s.files.setIfInBounds i f }

end Runbook.Shell
