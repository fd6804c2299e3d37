import Runbook.Shell.Stream

set_option autoImplicit false

/-! # The schedule of the processes

A *machine* is a system with the processes in it, each of which waits for something. They take
turns: the one that has waited longest of those that have what they wait for goes on, until it waits
again or ends. Only when none can go on does time pass up to the next moment that one of them waits
for; besides that a little time passes whenever a process begins or does nothing but take its turn.

A signal takes effect when it is delivered: before the next turn of any process.
-/

namespace Runbook.Shell

/-- A process and what it waits for. -/
structure Task where
  process : Process
  wait : Wait
  /-- How the process goes on. -/
  next : State → Course Unit

/-- A system with its processes, the one that has waited longest first. -/
structure Machine where
  system : System
  tasks : List Task := []
  /-- How many turns have been taken since a process got what it waited for. -/
  spins : Nat := 0

namespace Machine

/-- Whether a process has not ended. -/
def isAlive (m : Machine) (number : Nat) : Bool := m.tasks.any (·.process.number == number)

/-- Whether any process holds something open. -/
def isHeld (m : Machine) (t : Target) : Bool :=
  m.tasks.any (·.process.holds m.system.files t)

/-- Whether a signal for which it has set a trap has come for a process. -/
def isCalled (m : Machine) (p : Process) : Bool :=
  m.system.signals.any fun (number, n) =>
    number == p.number && n != 17 && (p.response n).any (!·.isEmpty)

/-- Whether a process has what it waits for. -/
def isReady (m : Machine) (t : Task) : Bool :=
  !m.system.stopped.contains t.process.number &&
    match t.wait with
    | .turn => true
    | .moment clock => clock ≤ m.system.clock
    | .bytes n => 0 < (m.system.pipe n).size || !m.isHeld (.sink n)
    | .room n => (m.system.pipe n).size < Pipe.capacity || !m.isHeld (.source n)
    | .ends numbers limit alert =>
        !numbers.any m.isAlive || limit.any (· ≤ m.system.clock) ||
          (alert && m.isCalled t.process)

/-! ## Ends and signals -/

/-- The machine after the end of a process. How it has ended can be asked by the process that has
started it, or, if no process has, by anyone. -/
def close (m : Machine) (p : Process) (ending : Ending) : Machine :=
  let parent := p.ancestors.head?
  let asks := fun (t : Task) => some t.process.number == parent
  let called := (m.tasks.find? asks).any fun t => (t.process.response 17).any (!·.isEmpty)
  { m with system := { m.system with
      ended := m.system.ended.filter (·.parent != some p.number) ++
        (if parent.isNone || m.tasks.any asks then [⟨p.number, parent, ending, false⟩] else [])
      signals := m.system.signals.filter (·.1 != p.number) ++
        (if called then parent.toList.map (·, 17) else [])
      stopped := m.system.stopped.filter (· != p.number) } }

/-- Delivers a signal: it ends or stops the process, lets it go on, is ignored, or is kept for its
trap. -/
def deliver (m : Machine) (number n : Nat) : Machine :=
  let keep := fun (m : Machine) =>
    { m with system := { m.system with signals := m.system.signals ++ [(number, n)] } }
  match m.tasks.find? (·.process.number == number) with
  | none => m
  | some t =>
      let m := if n == 18 then { m with system := { m.system with
          stopped := m.system.stopped.filter (· != number) } } else m
      match t.process.response n with
      | some action => if action.isEmpty then m else keep m
      | none =>
          if isHarmless n then m
          else if isStopping n then
            { m with system := { m.system with stopped := number :: m.system.stopped } }
          else
            let rest := m.tasks.filter (·.process.number != number)
            { m with tasks := rest }.close t.process (.killed n)

/-- Delivers all signals that have been sent. -/
def deliverAll (m : Machine) : Machine :=
  m.system.signals.foldl (fun m (number, n) => m.deliver number n)
    { m with system := { m.system with signals := [] } }

/-! ## Turns -/

/-- How much time passes when a process begins, in millionths of a second. -/
def startTime : Nat := 300

/-- How much time passes with a turn behind so many others. Turns that lead to nothing for long take
longer, as whoever takes them waits for time to pass. -/
def turnTime (spins : Nat) : Nat := if spins < 100 then 200 else min 5000 (200 + (spins - 100) * 50)

/-- Follows the course of a process until it waits or ends. A process that it starts is put at the
end of the queue. -/
def follow (m : Machine) : Course Unit → Machine
  | .ends r after => { m with system := after.system }.close after.process (Course.ending r after)
  | .waits wait now next =>
      let task : Task := { process := now.process, wait, next }
      { m with system := now.system, tasks := m.tasks ++ [task] }
  | .splits copy now next =>
      let system := { now.system with
        others := now.system.others ++ [copy]
        clock := now.system.clock + startTime }
      let task : Task := { process := copy, wait := .turn, next := next true }
      { m with tasks := m.tasks ++ [task] }.follow (next false { process := now.process, system })

/-- Lets a process go on. -/
def resume (m : Machine) (t : Task) : Machine :=
  let rest := m.tasks.filter (·.process.number != t.process.number)
  let spins := if t.wait == .turn then m.spins + 1 else 0
  let system := { m.system with
    others := rest.map (·.process)
    clock := m.system.clock + if t.wait == .turn then turnTime m.spins else 0 }
  { m with tasks := rest, spins }.follow (t.next ⟨t.process, system⟩)

/-- The next moment that a process waits for. -/
def nextMoment? (m : Machine) : Option Nat :=
  (m.tasks.filterMap fun t =>
    if m.system.stopped.contains t.process.number then none
    else
      match t.wait with
      | .moment clock => some clock
      | .ends _ limit _ => limit
      | _ => none).min?

/-- The machine after the next turn, if a process can go on without time passing. -/
def turn? (m : Machine) : Option Machine := (m.tasks.find? m.isReady).map m.resume

/-- The machine after the next turn, for which time passes if need be; none if all processes wait
for each other. -/
def step? (m : Machine) : Option Machine :=
  match m.turn? with
  | some next => some next
  | none =>
      m.nextMoment?.map fun clock =>
        { m with system := { m.system with clock := max clock m.system.clock } }

/-- The machine when a process has ended, or after so many turns. -/
def runUntil (number : Nat) : Nat → Machine → Machine
  | 0, m => m
  | fuel + 1, m =>
      let m := m.deliverAll
      if m.isAlive number then
        match m.step? with
        | some next => runUntil number fuel next
        | none => m
      else m

/-- The machine when no process can go on without time passing, or after so many turns. -/
def quiesce : Nat → Machine → Machine
  | 0, m => m
  | fuel + 1, m =>
      let m := m.deliverAll
      match m.turn? with
      | some next => quiesce fuel next
      | none => m

end Machine

end Runbook.Shell
