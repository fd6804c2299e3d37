import Runbook.Execution.Basic
import Runbook.Invocation.Binding
import Runbook.Invocation.Stage
import Runbook.Registry

set_option autoImplicit false

/-! # Invocations

An invocation resolves a recipe, binds its arguments, renders its lines and executes them. It
ends with a result, completed or failed with the fault that stopped it, or else it breaks off. What
it does is recorded as a list of steps: the moves of its tracker, the events of the execution, and
the fault. One that breaks off has done its steps all the same.
-/

namespace Runbook

/-- What runs the recipes of a registry, and how. -/
structure Dispatcher where
  registry : Registry
  /-- The shell for recipe files that set none; an empty list is no shell. -/
  fallbackShell : List Text := []
  echo : Bool := true
  dryRun : Bool := false
  environment : Option (List (Text × Text)) := none

/-- How an invocation ended. `line` is the line of the body that the execution had reached when
it failed. -/
structure InvocationResult where
  status : Int
  stage : Stage
  recipe : Option Text := none
  lines : List Text := []
  line : Option Int := none
  fault : Option RunFault := none
  deriving DecidableEq, Repr

/-- What an invocation does. -/
inductive Step where
  /-- The tracker moves, for the execution of a line to the number of that line. -/
  | moved (last next : Stage) (line : Option Int)
  /-- An event of the execution. The announcement of a line is a move of the tracker instead. -/
  | did (event : Event)
  /-- The invocation has failed. -/
  | failed (fault : RunFault)
  deriving DecidableEq, Repr

/-- Why an invocation breaks off without a result. -/
inductive Breakdown where
  | move (fault : MoveFault)
  /-- A parameter is not bound. -/
  | unbound (parameter : Text)
  /-- The shell is an empty command. -/
  | noCommand
  /-- The process of a line was refused. -/
  | refused (refusal : Refusal)
  deriving DecidableEq, Repr

/-- The break in words. -/
def Breakdown.message : Breakdown → String
  | .move fault => fault.message
  | .unbound parameter => "no value for the parameter " ++ Text.ticked parameter
  | .noCommand => "the shell is an empty command"
  | .refused refusal => refusal.message

/-- An invocation that has broken off: its steps until then, and why. -/
structure Break where
  steps : List Step
  /-- The recipe, if it had been found. -/
  recipe : Option Text := none
  cause : Breakdown
  deriving DecidableEq, Repr

/-- How an invocation ends: with its steps and a result, or broken off. -/
abbrev Invoked := Except Break (List Step × InvocationResult)

/-- The steps of an invocation, however it ends. -/
def Invoked.steps : Invoked → List Step
  | .ok (steps, _) => steps
  | .error broken => broken.steps

/-- The shell that runs lines when nothing else is set. Variables that are not set are errors. -/
def defaultShell : List Text := ["sh".toList, "-cu".toList]

namespace Dispatcher

/-- The shell that runs the lines: that of the recipe file, else that of the dispatcher, else
the default. -/
def shell (d : Dispatcher) : List Text :=
  match d.registry.settings.shell with
  | some (command :: arguments) => command :: arguments
  | _ => if d.fallbackShell.isEmpty then defaultShell else d.fallbackShell

/-- The recipe of a name, or the first one. -/
def resolve (d : Dispatcher) : Option Text → Except RunFault Recipe
  | none =>
      match d.registry.default? with
      | some r => .ok r
      | none => .error .noRecipes
  | some name =>
      match d.registry.find? name with
      | some r => .ok r
      | none => .error (.unknownRecipe name (d.registry.suggestion? name))

/-- The job of executing rendered lines of a recipe. -/
def job (d : Dispatcher) (r : Recipe) (lines : List Text) (positional : Option (List Text)) :
    Job where
  recipe := r.name
  lines := lines
  shell := d.shell
  positional := positional
  environment := d.environment
  directory := d.registry.directory?
  echo := d.echo
  dryRun := d.dryRun

/-- An invocation up to its execution: the tracker, the steps so far, and what has been found. -/
structure Preparation where
  tracker : Tracker
  steps : List Step
  recipe : Option Recipe := none
  lines : List Text := []

/-- A preparation that breaks off. -/
def Preparation.breakOff (p : Preparation) (cause : Breakdown) : Break :=
  ⟨p.steps, p.recipe.map (·.name), cause⟩

/-- A preparation moved to a stage. -/
def Preparation.move (p : Preparation) (stage : Stage) (line : Option Int) :
    Except Break Preparation :=
  match p.tracker.advance stage line with
  | .ok t => .ok { p with
      tracker := t
      steps := p.steps ++ [.moved p.tracker.stage stage line] }
  | .error fault => .error (p.breakOff (.move fault))

/-- A preparation moved along the events of an execution: every announcement of a line is a move
to that line. -/
def Preparation.along (p : Preparation) : List Event → Except Break Preparation
  | [] => .ok p
  | .announced line _ :: more => do (← p.move .executing (some line)).along more
  | event :: more => Preparation.along { p with steps := p.steps ++ [Step.did event] } more

/-- The result of an invocation that fails. -/
def Preparation.fail (p : Preparation) (name : Option Text) (fault : RunFault) : Invoked := do
  let line := if p.tracker.stage == .executing then p.tracker.line else none
  let q ← p.move .failed none
  .ok (q.steps ++ [.failed fault], {
    status := fault.exitCode
    stage := q.tracker.stage
    recipe := p.recipe.elim name fun r => some r.name
    lines := p.lines
    line := line
    fault := some fault })

/-- The result of an invocation whose lines have all succeeded. -/
def Preparation.complete (p : Preparation) : Invoked := do
  let q ← p.move .completed none
  .ok (q.steps, {
    status := 0
    stage := q.tracker.stage
    recipe := p.recipe.map (·.name)
    lines := p.lines })

/-- The arguments that are added to the shell of each line, if the recipe file asks for them. -/
def positional (d : Dispatcher) (r : Recipe) (b : Bindings) :
    Except Breakdown (Option (List Text)) :=
  if d.registry.settings.positionalArguments then
    match r.positionalValues b with
    | .ok values => .ok (some values)
    | .error name => .error (.unbound name)
  else .ok none

/-- Invokes a recipe, the first one if none is named. -/
def invoke (d : Dispatcher) (name : Option Text) (arguments : List Text) (schedule : Schedule) :
    Invoked := do
  let p : Preparation := { tracker := {}, steps := [] }
  let p ← p.move .resolving none
  match d.resolve name with
  | .error fault => p.fail name fault
  | .ok r =>
      let p ← Preparation.move { p with recipe := some r } .binding none
      match r.bind arguments with
      | .error fault => p.fail name fault
      | .ok b =>
          let p ← p.move .rendering none
          match r.render b with
          | .error fault => p.fail name fault
          | .ok lines =>
              let values ← (d.positional r b).mapError p.breakOff
              let (events, stop) := (d.job r lines values).execute schedule
              let p ← Preparation.along { p with lines := lines } events
              match stop with
              | none => p.complete
              | some (.fault fault) => p.fail name fault
              | some .noCommand => .error (p.breakOff .noCommand)
              | some (.refused refusal) => .error (p.breakOff (.refused refusal))

end Dispatcher

end Runbook
