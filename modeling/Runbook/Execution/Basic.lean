import Runbook.Invocation.Fault
import Runbook.Path

set_option autoImplicit false

/-! # Executing lines

The lines of a recipe run one after another, each by a process of its own, and the first that
does not succeed ends the execution. What the outside does is given by a *schedule*: the signals
that arrive while a line is announced, and for each process whether it can be started, the
signals that arrive, and the status it ends with. `execute` is a function of the job and the
schedule; it gives the events in the order in which they happen, and how the execution ends.

A process may fail to start for two reasons. The system may be unable to start it, which is
reported as a fault of its line. Or the words and variables that it is to be given are such that
no process can be given them: then the system is not even asked, and the execution breaks off.

The first signal that is received is remembered. It is looked at before each line and after each
process has ended, and ends the execution there. Signals that ask a process to end are passed on
to the running process; an interrupt is not, because the terminal sends it to the process anyway.
-/

namespace Runbook

/-! ## Schedules -/

/-- The signals that are handled while lines run. -/
inductive Signal where
  | hangup
  | interrupt
  | terminate
  deriving DecidableEq, Repr

namespace Signal

/-- The number of a signal. -/
def number : Signal → Nat
  | hangup => 1
  | interrupt => 2
  | terminate => 15

/-- Whether the signal is passed on to a running process. -/
def isRelayed : Signal → Bool
  | interrupt => false
  | _ => true

end Signal

/-- Why a process is refused for what it is to be given. -/
inductive Refusal where
  /-- A word or a variable holds the character that ends texts. -/
  | nullCharacter
  /-- The name of a variable holds the sign that ends names. -/
  | variableName
  deriving DecidableEq, Repr

/-- The refusal in words. -/
def Refusal.message : Refusal → String
  | .nullCharacter => "embedded null byte"
  | .variableName => "illegal environment variable name"

/-- Why no process can be given these words and variables, if none can. -/
def refusal? (words : List Text) (environment : List (Text × Text)) : Option Refusal :=
  let texts := words ++ environment.flatMap fun (name, value) => [name, value]
  if environment.any (·.1.contains '=') then some .variableName
  else if texts.any (·.contains '\x00') then some .nullCharacter
  else none

/-- What becomes of a process. -/
inductive Fate where
  /-- The system cannot start it. -/
  | notStarted (reason : Text)
  /-- It is refused, without the system being asked. -/
  | refused (refusal : Refusal)
  /-- It ends with a status, negative if a signal ended it. While it is waited for, `signals`
  arrive as long as it runs, and then `late` when it has ended already. -/
  | ends (status : Int) (signals late : List Signal)
  deriving DecidableEq, Repr

/-- A process. The signals `early` arrive when it has been started and is not yet known. -/
structure Child where
  early : List Signal := []
  fate : Fate := .ends 0 [] []
  deriving DecidableEq, Repr

/-- What the outside does during an execution. A process beyond the end of the list succeeds. -/
structure Schedule where
  /-- The signals that arrive while the line of this number is announced. -/
  announced : Nat → List Signal := fun _ => []
  children : List Child := []

/-! ## Jobs and events -/

/-- What is to be executed, and how. -/
structure Job where
  recipe : Text := []
  lines : List Text
  /-- The command that runs a line, which is added to it. -/
  shell : List Text
  /-- The arguments added behind the line, if any are to be. -/
  positional : Option (List Text) := none
  /-- The environment of the processes; none inherits. -/
  environment : Option (List (Text × Text)) := none
  /-- The directory in which the processes run; none inherits. -/
  directory : Option Path := none
  echo : Bool := true
  dryRun : Bool := false
  /-- Whether lines are announced. -/
  announce : Bool := true

/-- What happens during an execution. -/
inductive Event where
  /-- A line is announced. -/
  | announced (line : Nat) (text : Text)
  /-- A line is printed. -/
  | echoed (text : Text)
  /-- An attempt to start a process. -/
  | started (argv : List Text) (environment : Option (List (Text × Text)))
      (directory : Option Path)
  /-- A signal is received. -/
  | received (signal : Signal)
  /-- A signal is passed on to the running process. -/
  | relayed (signal : Signal)
  /-- A process has ended and been waited for. -/
  | waited (status : Int)
  deriving DecidableEq, Repr

/-- Why an execution ends early. -/
inductive Stop where
  | fault (f : RunFault)
  /-- The shell is an empty command, whose name was needed. -/
  | noCommand
  /-- The process of a line was refused. -/
  | refused (refusal : Refusal)
  deriving DecidableEq, Repr

/-! ## Running -/

/-- The words of the process of a line: the shell, the line, and with positional arguments the
name that the line sees itself under and the arguments. -/
def argv (line : Text) (shell : List Text) (recipe : Text) (positional : Option (List Text)) :
    Option (List Text) :=
  match positional with
  | none => some (shell ++ [line])
  | some arguments =>
      if recipe.isEmpty then shell.head?.map fun command => shell ++ line :: command :: arguments
      else some (shell ++ line :: recipe :: arguments)

/-- The events of signals that arrive, `running` saying whether a known process is running. -/
def arrivals (running : Bool) (signals : List Signal) : List Event :=
  signals.flatMap fun s =>
    if running && s.isRelayed then [.received s, .relayed s] else [.received s]

namespace Job

/-- The events of the announcement and the printing of a line. -/
def opening (job : Job) (announced : List Signal) (line : Nat) (text : Text) : List Event :=
  (if job.announce then .announced line text :: arrivals false announced else []) ++
    if job.echo || job.dryRun then [.echoed text] else []

/-- The events of an attempt to run a process. -/
def attempt (job : Job) (words : List Text) (child : Child) : List Event :=
  .started words job.environment job.directory :: arrivals false child.early ++
    match child.fate with
    | .notStarted _ => []
    | .refused _ => []
    | .ends status signals late =>
        arrivals true signals ++ arrivals false late ++ [.waited status]

/-- The first of the signals that arrive during the turn of a line. -/
def firstHeard (announced : List Signal) (child : Child) : Option Signal :=
  match child.fate with
  | .notStarted _ => (announced ++ child.early).head?
  | .refused _ => (announced ++ child.early).head?
  | .ends _ signals late => (announced ++ child.early ++ signals ++ late).head?

/-- How the turn of a line ends the execution, if it does: a process that is not started
counts first, then a signal that was received, then the status. -/
def stop? (job : Job) (announced : List Signal) (child : Child) (line : Nat) : Option Stop :=
  match child.fate, firstHeard announced child with
  | .notStarted reason, _ =>
      match job.shell with
      | [] => some .noCommand
      | command :: _ => some (.fault (.notStarted job.recipe line command reason))
  | .refused refusal, _ => some (.refused refusal)
  | .ends _ _ _, some s => some (.fault (.killed job.recipe line s.number))
  | .ends status _ _, none =>
      if status < 0 then some (.fault (.killed job.recipe line (-status)))
      else if status = 0 then none
      else some (.fault (.exited job.recipe line status))

/-- Runs lines, the first of which has number `n`, the signal `heard` having been received. -/
def runFrom (job : Job) (announced : Nat → List Signal) :
    Nat → Option Signal → List Child → List Text → List Event × Option Stop
  | _, _, _, [] => ([], none)
  | n, some s, _, _ :: _ => ([], some (.fault (.killed job.recipe n s.number)))
  | n, none, children, text :: more =>
      let heard := if job.announce then announced n else []
      let opening := job.opening heard n text
      if job.dryRun then
        let (events, stop) := runFrom job announced (n + 1) heard.head? children more
        (opening ++ events, stop)
      else
        match argv text job.shell job.recipe job.positional with
        | none => (opening, some .noCommand)
        | some words =>
            let child := children.head?.getD {}
            let events := opening ++ job.attempt words child
            match job.stop? heard child n with
            | some stop => (events, some stop)
            | none =>
                let (later, stop) := runFrom job announced (n + 1) none (children.drop 1) more
                (events ++ later, stop)

/-- Executes a job: the events, and how it stopped if not all lines succeeded. -/
def execute (job : Job) (schedule : Schedule) : List Event × Option Stop :=
  job.runFrom schedule.announced 1 none schedule.children job.lines

end Job

end Runbook
