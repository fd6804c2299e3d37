import Runbook.Invocation.Dispatcher

set_option autoImplicit false

/-! # What a run shows

The steps of an invocation as they are seen from outside: what is printed, and what is done with
processes and signals. When the log is on, the moves of the tracker and the events of the
execution are told as they happen, each in a line that begins with its level and its source.
-/

namespace Runbook

/-- What is seen of a run. -/
inductive Shown where
  /-- A line printed to standard output. -/
  | out (text : Text)
  /-- A line printed to standard error. -/
  | err (text : Text)
  /-- The line that reports why a run fails. -/
  | report (message : String)
  /-- Something done with a process or a signal. -/
  | act (event : Event)
  deriving DecidableEq, Repr

/-- The prefix of the loggers' names. -/
def loggerRoot : String := "recipe_runner."

/-- A line of the log at the level that tells everything. -/
def debugLine (logger message : String) : Shown :=
  .err ("DEBUG " ++ loggerRoot ++ logger ++ ": " ++ message).toList

namespace Step

/-- What is logged before and after a step. `recipe` and `line` are those of the line that is
being executed. -/
def narrated (recipe : Text) (line : Nat) : Step → List Shown × List Shown
  | moved last next reached =>
      let place := match reached with
        | some n => "(" ++ toString n ++ ")"
        | none => ""
      ([debugLine "invoke.dispatch" (last.name ++ " -> " ++ next.name ++ place)], [])
  | failed fault => ([debugLine "invoke.dispatch" ("Invocation failed: " ++ fault.message)], [])
  | did (.started argv _ _) =>
      ([debugLine "invoke.process" ("Spawning line " ++ toString line ++ " of " ++
        Text.ticked recipe ++ ": " ++ String.ofList (Text.quotedList argv))], [])
  | did (.received s) =>
      ([], [debugLine "invoke.process" ("Received signal " ++ toString s.number)])
  | did (.waited status) =>
      ([], [debugLine "invoke.process" ("Line " ++ toString line ++ " of " ++ Text.ticked recipe ++
        " exited with " ++ toString status)])
  | did _ => ([], [])

/-- What a step itself shows. -/
def visible : Step → List Shown
  | did (.echoed text) => [.err text]
  | did event => [.act event]
  | _ => []

/-- The line of the body that is being executed after a step. -/
def lineAfter (line : Nat) : Step → Nat
  | moved _ _ (some n) => n.toNat
  | _ => line

end Step

/-- What steps show, with the log if `verbose`. -/
def narrate (verbose : Bool) (recipe : Text) : Nat → List Step → List Shown
  | _, [] => []
  | line, step :: more =>
      let (before, after) := if verbose then step.narrated recipe line else ([], [])
      before ++ step.visible ++ after ++ narrate verbose recipe (step.lineAfter line) more

end Runbook
