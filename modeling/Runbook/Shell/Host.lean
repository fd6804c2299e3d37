import Runbook.Invocation.Dispatcher
import Runbook.Shell.Run
import Runbook.Shell.Schedule

set_option autoImplicit false

/-! # Running an invocation on a host

A host is a machine with a directory and an environment in which processes run. The processes of an
invocation run one after another and change the file tree; what they leave in the background goes
on beside those that follow. What becomes of each of them is the schedule of the invocation. Which
processes there are does not depend on what becomes of them, only how many are reached does, so
they are found by an invocation in which all succeed.
-/

namespace Runbook

/-- Where processes run. -/
structure Host where
  machine : Shell.Machine
  /-- The directory of the processes, as names from the root. -/
  directory : List Text
  environment : List (Text × Text)

namespace Host

open Shell

/-- A bound on the steps that a process takes. -/
def stepBound : Nat := 1000000

/-- A bound on the turns of the processes of a machine. -/
def turnBound : Nat := 10000000

/-- A bound on the turns of processes that nobody waits for. -/
def lateBound : Nat := 1000

/-- The number of the process that starts the others. -/
def ownNumber : Nat := 100

/-- The reason that a program cannot be started, in the words of the system. -/
def startFault (found : Found) (name : Text) : Text :=
  let reason :=
    match found with
    | .forbidden => "[Errno 13] Permission denied: "
    | .script _ => "[Errno 8] Exec format error: "
    | _ => "[Errno 2] No such file or directory: "
  reason.toList ++ Text.quoted name

/-- How many bytes a word or a variable of a process may have. -/
def wordBound : Nat := 131071

/-- Whether a word or a variable is too long for a process. -/
def isOverfull (h : Host) (words : List Text) : Bool :=
  let given := h.environment.map fun (name, value) => name ++ '=' :: value
  (words ++ given).any fun t => wordBound < (Utf8.encode t).length

/-- The directories in which a program is searched when the environment does not say so. -/
def plainSearch : Text := "/bin:/usr/bin".toList

/-- The host with a file tree, on which nothing runs yet. -/
def ofTree (tree : FileTree) (directory : List Text) (environment : List (Text × Text)) : Host where
  machine := { system := {
    tree := furnished tree
    files := #[{ target := .device .null }]
    lastNumber := ownNumber } }
  directory
  environment

/-- The file tree of a host. -/
def tree (h : Host) : FileTree := h.machine.system.tree

/-- The state in which a program begins. Its three standard streams lead nowhere. -/
def initial (h : Host) : State :=
  let number := h.machine.system.lastNumber + 1
  { process := {
      number
      shell := number
      directory := h.directory
      store := h.environment.map fun (name, value) =>
        { name := inward name, value := some (inward value), exported := true }
      streams := [(0, 0), (1, 0), (2, 0)] }
    system := { h.machine.system with lastNumber := number } }

/-- Whether a program can be started: a script can if it names the program that runs it. -/
def isStartable (s : State) (found : Found) : Bool :=
  match found with
  | .program _ => true
  | .script bytes =>
      match interpreter? bytes with
      | some (program :: _) =>
          match foundAt s program with
          | .program _ => true
          | _ => false
      | _ => false
  | _ => false

/-- Runs one process, and then what it has left in the background as long as that does not wait for
time to pass: the host afterwards, and what has become of the process. A process that is refused or
cannot be started leaves the host as it is. -/
def spawn (h : Host) (words : List Text) : Host × Child :=
  match refusal? words h.environment with
  | some refusal => (h, { fate := .refused refusal })
  | none =>
  let s := h.initial
  let name := words.head?.getD []
  let (found, path) := findProgram s ((s.process.value? "PATH") <|> some plainSearch) (inward name)
  if !isStartable s found then (h, { fate := .notStarted (startFault found name) })
  else if h.isOverfull words then
    (h, { fate := .notStarted ("[Errno 7] Argument list too long: ".toList ++ Text.quoted name) })
  else
    let number := s.process.number
    let run : Action Unit := do
      let n ← runProgram stepBound found path (words.map inward)
      throw (.exit n)
    let task : Task := { process := s.process, wait := .turn, next := run }
    let begun : Machine := { h.machine with
      system := s.system, tasks := h.machine.tasks ++ [task] }
    let after := begun.runUntil number turnBound
    let status : Int := match (after.system.ended.find? (·.process == number)).map (·.ending) with
      | some (Ending.exited n) => n
      | some (Ending.killed n) => -n
      | none => 0
    let late := after.quiesce lateBound
    ({ h with machine := late }, { fate := .ends status [] [] })

/-- Runs processes one after another up to the first that does not succeed. -/
def spawnAll (h : Host) : List (List Text) → Host × List Child
  | [] => (h, [])
  | words :: rest =>
      let (next, child) := h.spawn words
      if child.fate == .ends 0 [] [] then
        let (last, children) := next.spawnAll rest
        (last, child :: children)
      else (next, [child])

end Host

/-- The words of the processes that steps start. -/
def startedBy (steps : List Step) : List (List Text) :=
  steps.filterMap fun step =>
    match step with
    | .did (.started words _ _) => some words
    | _ => none

/-- The words of the processes that an invocation starts when all of them succeed. -/
def Dispatcher.planned (d : Dispatcher) (name : Option Text) (arguments : List Text) :
    List (List Text) :=
  startedBy (d.invoke name arguments {}).steps

/-- The host on which the processes of an invocation run: its environment is that of the dispatcher if
it has one. -/
def Dispatcher.hostOf (d : Dispatcher) (h : Host) : Host :=
  { h with environment := d.environment.getD h.environment }

/-- Invokes a recipe on a host: the host afterwards, and how the invocation ends. -/
def Dispatcher.invokeOn (d : Dispatcher) (h : Host) (name : Option Text) (arguments : List Text) :
    Host × Invoked :=
  let (after, children) := (d.hostOf h).spawnAll (d.planned name arguments)
  (after, d.invoke name arguments { children })

end Runbook
