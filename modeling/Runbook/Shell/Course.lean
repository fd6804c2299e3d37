import Runbook.Shell.State

set_option autoImplicit false

/-! # Actions and their courses

An *action* changes the state of a process and the system. Its *course* from a state is what
happens until it ends: it ends at once, or it waits for something that other processes do, or it
splits the process in two and goes on in both. An action that ends has a value, or it *halts*: by
an exit, an error, a signal, or by going on behind a loop or a function.

While an action waits, the state of its process is kept and the system goes on; it is resumed with
the state of the system that there is by then.
-/

namespace Runbook.Shell

/-! ## Courses -/

/-- What ends a command before its end. -/
inductive Halt where
  | exit (status : Nat)
  /-- An error that has been reported. It ends the shell unless a command of the shell that is
  not special caused it. -/
  | error (status : Nat)
  | killed (signal : Nat)
  /-- The shell goes on behind the last of so many loops. -/
  | leave (loops : Nat)
  /-- The shell goes on with the next turn of the last of so many loops. -/
  | resume (loops : Nat)
  /-- The shell goes on behind the function. -/
  | answer (status : Nat)
  /-- The process, a copy of another one, has come to its end. Nothing goes on behind that. -/
  | ended (ending : Ending)
  deriving DecidableEq, Repr

/-- What a process waits for. -/
inductive Wait where
  /-- That the other processes have had their turns. -/
  | turn
  /-- A moment. -/
  | moment (clock : Nat)
  /-- Bytes in a pipe, or that none will come. -/
  | bytes (pipe : Nat)
  /-- Room in a pipe, or that nobody reads from it. -/
  | room (pipe : Nat)
  /-- The ends of processes, for a limited time if there is a limit. A process that is `alert` is
  resumed also for a signal that it has set a trap for. -/
  | ends (processes : List Nat) (limit : Option Nat) (alert : Bool)
  deriving DecidableEq, Repr

/-- What happens from a state on. -/
inductive Course (α : Type) where
  | ends (result : Except Halt α) (after : State)
  | waits (reason : Wait) (now : State) (next : State → Course α)
  /-- A process begins as a copy of this one. What goes on is told whether it is the copy. -/
  | splits (copy : Process) (now : State) (next : Bool → State → Course α)

namespace Course

variable {α β : Type}

/-- The course that goes on behind the end of another one, unless that has halted. -/
@[specialize] def bind (c : Course α) (f : α → State → Course β) : Course β :=
  match c with
  | ends (.ok a) s => f a s
  | ends (.error h) s => ends (.error h) s
  | waits r s next => waits r s fun t => (next t).bind f
  | splits p s next => splits p s fun copy t => (next copy t).bind f

/-- The course in which something goes on behind a halt. -/
def recover (c : Course α) (f : Halt → State → Course α) : Course α :=
  match c with
  | ends (.error (.ended e)) s => ends (.error (.ended e)) s
  | ends (.error h) s => f h s
  | ends (.ok a) s => ends (.ok a) s
  | waits r s next => waits r s fun t => (next t).recover f
  | splits p s next => splits p s fun copy t => (next copy t).recover f

/-- The course that does not halt, but tells how the other one has ended. -/
def attempt (c : Course α) : Course (Except Halt α) :=
  match c with
  | ends (.error (.ended e)) s => ends (.error (.ended e)) s
  | ends r s => ends (.ok r) s
  | waits r s next => waits r s fun t => (next t).attempt
  | splits p s next => splits p s fun copy t => (next copy t).attempt

/-- The course with the process changed at its end, whether or not it has halted. -/
def withEnd (c : Course α) (f : Process → Process) : Course α :=
  match c with
  | ends (.error (.ended e)) s => ends (.error (.ended e)) s
  | ends r s => ends r { s with process := f s.process }
  | waits r s next => waits r s fun t => (next t).withEnd f
  | splits p s next => splits p s fun copy t => (next copy t).withEnd f

/-- How a process has ended whose course has ended so. -/
def ending (r : Except Halt α) (after : State) : Ending :=
  match r with
  | .ok _ => .exited after.process.status
  | .error (.exit n) => .exited (n % 256)
  | .error (.error n) => .exited n
  | .error (.killed n) => .killed n
  | .error (.ended e) => e
  | .error _ => .exited after.process.status

/-- The course of a process that is over at the end. -/
def conclude (c : Course α) : Course β :=
  match c with
  | ends r s => ends (.error (.ended (ending r s))) s
  | waits r s next => waits r s fun t => (next t).conclude
  | splits p s next => splits p s fun copy t => (next copy t).conclude

end Course

/-! ## Actions -/

/-- A change of the state, which may halt, wait and split. -/
def Action (α : Type) : Type := State → Course α

namespace Action

variable {α β : Type}

/-- The action that changes nothing. -/
@[always_inline, inline] protected def pure (a : α) : Action α := fun s => .ends (.ok a) s

/-- One action behind another one. -/
@[always_inline, inline] protected def bind (x : Action α) (f : α → Action β) : Action β :=
  fun s => (x s).bind f

instance : Monad Action where
  pure := Action.pure
  bind := Action.bind

instance : MonadStateOf State Action where
  get := fun s => .ends (.ok s) s
  set s := fun _ => .ends (.ok ()) s
  modifyGet f := fun s => .ends (.ok (f s).1) (f s).2

instance : MonadExceptOf Halt Action where
  throw h := fun s => .ends (.error h) s
  tryCatch x handle := fun s => (x s).recover handle

instance : Inhabited (Action α) := ⟨fun s => .ends (.error (.exit 2)) s⟩

end Action

/-- The process. -/
def self : Action Process := fun s => .ends (.ok s.process) s

/-- Changes the process. -/
@[inline] def modifySelf (f : Process → Process) : Action Unit :=
  fun s => .ends (.ok ()) { s with process := f s.process }

/-- Changes the system. -/
@[inline] def modifySystem (f : System → System) : Action Unit :=
  fun s => .ends (.ok ()) { s with system := f s.system }

/-- The file tree. -/
def tree : Action FileTree := fun s => .ends (.ok s.system.tree) s

/-- The time in millionths of a second. -/
def clock : Action Nat := fun s => .ends (.ok s.system.clock) s

/-- Sets the status of the last command. -/
def setStatus (status : Nat) : Action Unit := modifySelf fun p => { p with status }

/-- Runs an action, and then changes the process whether or not the action has halted. -/
def ensuring {α : Type} (a : Action α) (f : Process → Process) : Action α :=
  fun s => (a s).withEnd f

/-- Runs an action and tells how it has ended. -/
def attempt {α : Type} (a : Action α) : Action (Except Halt α) := fun s => (a s).attempt

/-- Waits. -/
def pause (reason : Wait) : Action Unit := fun s => .waits reason s fun t => .ends (.ok ()) t

/-- Lets the other processes go on if there are any. -/
def pass : Action Unit := do
  if !(← get).system.others.isEmpty then pause .turn

/-! ## Processes that begin and end -/

/-- Begins a copy of the process, changed by `f`, in which an action is run. Gives its number. -/
def start (f : Process → Process) (a : Action Unit) : Action Nat := fun s =>
  let number := s.system.lastNumber + 1
  let copy := f { s.process with
    number
    ancestors := s.process.number :: s.process.ancestors
    traps := s.process.traps.filter (·.2.isEmpty)
    jobs := [] }
  .splits copy { s with system := { s.system with lastNumber := number } } fun isCopy t =>
    if isCopy then (a t).conclude else .ends (.ok number) t

/-- Whether a process has not ended. -/
def State.isAlive (s : State) (number : Nat) : Bool := s.system.others.any (·.number == number)

/-- How a process has ended that this one has started, if it has. -/
def State.ended? (s : State) (number : Nat) : Option Ended :=
  s.system.ended.find? fun e => e.process == number && e.parent == some s.process.number

/-- Takes note of how processes have ended that this one has started. -/
def noticeAll : Action Unit := fun s =>
  let mine := fun (e : Ended) => e.parent == some s.process.number
  .ends (.ok ()) { s with system := { s.system with
    ended := s.system.ended.map fun e => if mine e then { e with noticed := true } else e } }

/-- Waits for the end of a process that this one has started, and tells how it has ended. -/
def awaitEnd (number : Nat) : Action Ending := do
  if (← get).isAlive number then pause (.ends [number] none false)
  let ending := (((← get).ended? number).map (·.ending)).getD (.exited 0)
  modifySystem fun s => { s with ended := s.ended.filter (·.process != number) }
  return ending

end Runbook.Shell
