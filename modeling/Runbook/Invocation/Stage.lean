import Runbook.Text.Basic

set_option autoImplicit false

/-! # The stages of an invocation

An invocation goes through stages in a fixed order, of which it may leave some out. Only the
execution may be entered again, for a later line. A tracker holds the stage that has been reached
and the last line; it refuses a move that does not lead forward, and any move from an end.
-/

namespace Runbook

/-- A stage of an invocation. -/
inductive Stage where
  | idle
  | resolving
  | binding
  | rendering
  | executing
  | completed
  | failed
  deriving DecidableEq, Repr

namespace Stage

/-- The stages in their order. -/
def all : List Stage := [idle, resolving, binding, rendering, executing, completed, failed]

/-- The place of a stage in the order. -/
def rank : Stage → Nat
  | idle => 0
  | resolving => 1
  | binding => 2
  | rendering => 3
  | executing => 4
  | completed => 5
  | failed => 6

/-- The name of a stage. -/
def name : Stage → String
  | idle => "idle"
  | resolving => "resolving"
  | binding => "binding"
  | rendering => "rendering"
  | executing => "executing"
  | completed => "completed"
  | failed => "failed"

/-- The stage of a name. -/
def ofName? (t : Text) : Option Stage := all.find? fun s => s.name.toList == t

/-- Whether an invocation ends with this stage. -/
def isFinal (s : Stage) : Bool := s == completed || s == failed

end Stage

/-- A move that a tracker refuses. -/
inductive MoveFault where
  /-- The execution is entered again, but not for a later line. -/
  | lineNotLater (last next : Option Int)
  /-- A stage that does not lie ahead. -/
  | notAhead (last next : Stage)
  /-- The invocation has ended. -/
  | ended (last : Stage)
  deriving DecidableEq, Repr

/-- A line number as messages give it. -/
def lineText : Option Int → String
  | none => "None"
  | some n => toString n

/-- The refusal in words. -/
def MoveFault.message : MoveFault → String
  | .lineNotLater last next =>
      "Invalid transition executing(" ++ lineText last ++ ") -> executing(" ++ lineText next ++ ")"
  | .notAhead last next => "Invalid transition " ++ last.name ++ " -> " ++ next.name
  | .ended last => "Invocation already finished (" ++ last.name ++ ")"

/-- How far an invocation has come. -/
structure Tracker where
  stage : Stage := .idle
  line : Option Int := none
  deriving DecidableEq, Repr

namespace Tracker

/-- Whether `next` is a line after the last one. -/
def isLater : Option Int → Option Int → Bool
  | some last, some next => last < next
  | _, _ => false

/-- Why a move is refused, if it is. -/
def fault? (t : Tracker) (stage : Stage) (line : Option Int) : Option MoveFault :=
  if stage == .executing && t.stage == .executing then
    if isLater t.line line then none else some (.lineNotLater t.line line)
  else if stage != .failed && stage.rank ≤ t.stage.rank then some (.notAhead t.stage stage)
  else if t.stage.isFinal then some (.ended t.stage)
  else none

/-- The tracker moved to a stage and, if one is given, a line. -/
def advance (t : Tracker) (stage : Stage) (line : Option Int) : Except MoveFault Tracker :=
  match t.fault? stage line with
  | some fault => .error fault
  | none => .ok ⟨stage, line <|> t.line⟩

end Tracker

end Runbook
