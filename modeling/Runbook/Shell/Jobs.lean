import Runbook.Shell.Signals

set_option autoImplicit false

/-! # Jobs and signals

The commands that a shell has started in the background are its jobs, which it knows by numbers. A
number is free again when the shell has waited for the job and starts something else. The signals
that processes send to each other take effect on the sender at once, or, if a trap is set for them,
behind the current command; any other process looks at its signals when it goes on.
-/

namespace Runbook.Shell

/-! ## Jobs -/

/-- How a job has ended, if all its processes have. -/
def State.jobEnding? (s : State) (j : Job) : Option Ending :=
  if j.processes.any s.isAlive then none
  else
    match j.processes.getLast? with
    | some n => some (((s.ended? n).map (·.ending)).getD (.exited 0))
    | none => some (.exited 0)

/-- Forgets a job. -/
def dropJob (number : Nat) : Action Unit := fun s =>
  let gone := (s.process.jobs.filter (·.number == number)).flatMap (·.processes)
  .ends (.ok ()) { s with
    process := { s.process with jobs := s.process.jobs.filter (·.number != number) }
    system := { s.system with
      ended := s.system.ended.filter fun e => !gone.contains e.process } }

/-- Finds a number for new commands. The job that has it, if it has been waited for, is
forgotten. -/
def freeNumber : Nat → Nat → Action Nat
  | 0, n => return n
  | fuel + 1, n => do
      let s ← get
      match s.process.jobs.find? (·.number == n) with
      | none => return n
      | some j =>
          if j.waited && (s.jobEnding? j).isSome then
            dropJob n
            return n
          else freeNumber fuel (n + 1)

/-- Finds a number for commands that the shell is about to start. -/
def claimNumber : Action Nat := do freeNumber (← self).jobs.length 1

/-- Makes processes a job of the shell. -/
def addJob (processes : List Nat) : Action Unit := do
  let number ← claimNumber
  modifySelf fun p => { p with
    jobs := { number, processes } :: p.jobs
    background := processes.getLast?
    status := 0 }

/-- The job that a text names, which begins with a percent sign: the current one, the one before,
or that of a number. -/
def jobOf (t : Text) : Action Job := do
  let jobs := (← self).jobs
  let current := fun (j : Option Job) (kind : String) =>
    match j with
    | some j => return j
    | none => fail ("No ".toList ++ kind.toList ++ " job".toList)
  if t.head? != some '%' then fail ("No such job: ".toList ++ t)
  match t.drop 1 with
  | [] => current jobs.head? "current"
  | ['+'] => current jobs.head? "current"
  | ['%'] => current jobs.head? "current"
  | ['-'] => current (jobs.drop 1).head? "previous"
  | name =>
      let number := name.foldl (fun n c => n * 10 + (c.toNat - '0'.toNat)) 0
      match jobs.find? fun j => name.all Char.isDigit && j.number == number with
      | some j => return j
      | none => fail ("No such job: ".toList ++ t)

/-- What is said of how a process has ended. -/
def Ending.text : Ending → Text
  | exited 0 => "Done".toList
  | exited n => "Done(".toList ++ Text.ofNat n ++ [')']
  | killed n => (signalText n).toList

/-- Prints a job, with its process if `long`. One that has ended is forgotten. -/
def showJob (long : Bool) (j : Job) : Action Unit := do
  let s ← get
  let sign := match s.process.jobs.findIdx? (·.number == j.number) with
    | some 0 => '+'
    | some 1 => '-'
    | _ => ' '
  let ending := s.jobEnding? j
  let process := if long then (j.processes.head?.map Text.ofNat).getD [] ++ [' '] else []
  let state := match ending with
    | none => "Running".toList
    | some e => e.text
  let head := ['['] ++ Text.ofNat j.number ++ "] ".toList ++ [sign, ' '] ++ process ++ state
  let others := (j.processes.drop 1).flatMap fun _ => " | ".toList
  writeLine (Text.padEnd 33 head ++ others)
  if ending.isSome then dropJob j.number

/-! ## Sending signals -/

/-- Sends a signal to a process, and says whether there is one. -/
def send (target n : Nat) : Action Bool := do
  let s ← get
  if target == s.process.number then
    suffer n
    return true
  else if target == 0 && n == 0 then return true
  else if s.isAlive target then
    if n != 0 then modifySystem fun t => { t with signals := t.signals ++ [(target, n)] }
    return true
  else return (s.ended? target).any (!·.noticed)

/-- Sends signals, or lists their names. -/
def kill (arguments : List Text) : Action Nat := do
  let usage : Action Nat := fail
    ("Usage: kill [-s sigspec | -signum | -sigspec] [pid | job]... or\n" ++
      "kill -l [exitstatus]").toList
  let badSignal := fun (t : Text) =>
    (fail ("invalid signal number or name: ".toList ++ t) : Action Nat)
  let deliver := fun (n : Nat) (targets : List Text) => do
    if targets.isEmpty then return ← usage
    let mut status := 0
    for t in targets do
      if t.head? == some '%' then
        -- The processes of a job have no group of their own that could be sent a signal.
        let _ ← jobOf t
        report "No such process\n".toList
        status := 1
        continue
      let (negative, digits) := match t with
        | '-' :: rest => (true, rest)
        | _ => (false, t)
      match (numberOf? true digits).filter fun k => 0 ≤ k && k < 2147483648 with
      | none => return ← fail ("Illegal number: ".toList ++ digits)
      | some k =>
          if negative || !(← send k.toNat n) then
            report "No such process\n".toList
            status := 1
    return status
  match arguments with
  | [] => usage
  | ('-' :: name) :: rest =>
      match signal? 1 name with
      | some n => deliver n rest
      | none =>
          match name, rest with
          | ['s'], t :: targets =>
              match signal? 1 t with
              | some n => deliver n targets
              | none => badSignal t
          | ['s'], [] => fail "No arg for -s option".toList
          | 's' :: t, _ =>
              match signal? 1 t with
              | some n => deliver n rest
              | none => badSignal t
          | ['l'], [] =>
              write (Text.terminated (['0'] :: (signalNames.drop 1).map (·.toList)))
              return 0
          | ['l'], t :: _ =>
              match (numberOf? true t).filter fun k => 0 ≤ k && k < 2147483648 with
              | none => fail ("Illegal number: ".toList ++ t)
              | some k =>
                  let n := if 128 < k then k - 128 else k
                  if 0 < n && n < 65 then
                    writeLine (signalName n.toNat)
                    return 0
                  else fail ("invalid signal number or exit status: ".toList ++ t)
          | ['-'], _ => deliver 15 rest
          | [], _ => deliver 15 arguments
          | c :: _, _ => fail ("Illegal option -".toList ++ [c])
  | _ => deliver 15 arguments

end Runbook.Shell
