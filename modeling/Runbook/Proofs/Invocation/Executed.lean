import Runbook.Proofs.Invocation.Result

set_option autoImplicit false

/-! # The events of an invocation

An invocation whose arguments bind does what its execution does: apart from the announcements of
lines, which are moves of its tracker, its steps are the events of the execution, in their order. This
is so whether it ends with a result or is broken off. So what can be read off the events of executions,
the words of processes or the lines that are printed, can be read off the steps of invocations.
-/

namespace Runbook

/-- The event that a step is. -/
def Step.event? : Step → Option Event
  | did event => some event
  | _ => none

namespace Dispatcher

variable {events : List Event} {steps : List Step} {p q : Preparation}

/-! ## Steps and events -/

/-- What is read off events other than announcements is read off the steps that they are. -/
theorem filterMap_steps {α : Type} {f : Event → Option α}
    (hf : ∀ line text, f (.announced line text) = none)
    (h : steps.filterMap Step.event? = events.filter fun e => e.line?.isNone) :
    steps.filterMap (fun step => step.event?.bind f) = events.filterMap f := by
  rw [← List.filterMap_filterMap, h, List.filterMap_filter]
  refine List.filterMap_congr fun e _ => ?_
  cases e with
  | announced line text => exact (hf line text).symm
  | echoed => rfl
  | started => rfl
  | received => rfl
  | relayed => rfl
  | waited => rfl

theorem Preparation.events_move {stage : Stage} {line : Option Int}
    (h : p.move stage line = .ok q) :
    q.steps.filterMap Step.event? = p.steps.filterMap Step.event? := by
  unfold move at h
  split at h
  · cases h
    rw [List.filterMap_append]
    exact List.append_nil _
  · cases h

/-- Along the events of an execution, those that announce no line become steps. -/
theorem Preparation.events_along (h : p.along events = .ok q) :
    q.steps.filterMap Step.event? =
      p.steps.filterMap Step.event? ++ events.filter fun e => e.line?.isNone := by
  induction events generalizing p with
  | nil =>
      cases h
      rw [List.filter_nil, List.append_nil]
  | cons event more ih =>
      have hdid : event.line? = none →
          Preparation.along { p with steps := p.steps ++ [Step.did event] } more = .ok q →
          q.steps.filterMap Step.event? =
            p.steps.filterMap Step.event? ++ (event :: more).filter fun e => e.line?.isNone := by
        intro hline halong
        rw [ih halong, List.filterMap_append, List.append_assoc, List.filter_cons, hline]
        rfl
      cases event with
      | announced line text =>
          obtain ⟨moved, hmove, hmore⟩ := bind_eq_ok_iff.mp h
          rw [ih hmore, events_move hmove]
          rfl
      | echoed text => exact hdid rfl h
      | started words environment directory => exact hdid rfl h
      | received signal => exact hdid rfl h
      | relayed signal => exact hdid rfl h
      | waited status => exact hdid rfl h

/-! ## Invocations that execute lines -/

variable {d : Dispatcher} {s : Schedule} {name : Option Text} {r : Recipe} {arguments : List Text}
  {b : Bindings} {lines : List Text} {values : Option (List Text)} {k : Nat}

theorem Executed.filterMap_event? (h : d.Executed s r lines values q k) :
    q.steps.filterMap Step.event? =
      ((d.job r lines values).execute s).1.filter fun e => e.line?.isNone :=
  Preparation.events_along h.along

/-- How an invocation ends whose lines are executed: completed if the execution returns, failed with
its fault, or broken off because a process is refused. -/
inductive EndsAs (d : Dispatcher) (s : Schedule) (name : Option Text) (arguments : List Text)
    (r : Recipe) (lines : List Text) (stop : Option Stop) : Invoked → Prop
  | completed {steps : List Step} (hstop : stop = none) :
      EndsAs d s name arguments r lines stop
        (.ok (steps, { status := 0, stage := .completed, recipe := some r.name, lines }))
  | failed {steps : List Step} {result : InvocationResult} {fault : RunFault}
      (hstop : stop = some (.fault fault)) (hexecution : fault.isExecution = true)
      (hcode : fault.exitCode ≠ 0) (hrecipe : result.recipe = some r.name)
      (hlines : result.lines = lines) (hstatus : result.status = fault.exitCode)
      (hfault : result.fault = some fault) :
      EndsAs d s name arguments r lines stop (.ok (steps, result))
  | refused {broken : Break} {refusal : Refusal} (hstop : stop = some (.refused refusal))
      (hcause : broken.cause = .refused refusal) (hrefuses : d.Refuses s name arguments refusal) :
      EndsAs d s name arguments r lines stop (.error broken)

/-- There is a result unless a process is refused. -/
theorem EndsAs.exists_result {stop : Option Stop} {ending : Invoked}
    (h : d.EndsAs s name arguments r lines stop ending)
    (hno : ¬ ∃ refusal, d.Refuses s name arguments refusal) :
    ∃ steps result, ending = .ok (steps, result) := by
  cases h with
  | completed => exact ⟨_, _, rfl⟩
  | failed => exact ⟨_, _, rfl⟩
  | refused _ _ hrefuses => exact absurd ⟨_, hrefuses⟩ hno

/-- An execution that returns completes the invocation. -/
theorem EndsAs.exists_completed {ending : Invoked}
    (h : d.EndsAs s name arguments r lines none ending) : ∃ steps, ending =
      .ok (steps, { status := 0, stage := .completed, recipe := some r.name, lines }) := by
  cases h with
  | completed => exact ⟨_, rfl⟩
  | failed hstop => cases hstop
  | refused hstop => cases hstop

/-- A result has the recipe and its lines. -/
theorem EndsAs.recipe_lines {stop : Option Stop} {steps : List Step} {result : InvocationResult}
    (h : d.EndsAs s name arguments r lines stop (.ok (steps, result))) :
    result.recipe = some r.name ∧ result.lines = lines := by
  cases h with
  | completed => exact ⟨rfl, rfl⟩
  | failed _ _ _ hrecipe hlines => exact ⟨hrecipe, hlines⟩

/-- **An invocation whose arguments bind does what its execution does**, and ends as it does. -/
theorem invoke_executes (hresolve : d.resolve name = .ok r) (hbind : r.bind arguments = .ok b)
    (hrender : r.render b = .ok lines) (hvalues : d.positional r b = .ok values) :
    (d.invoke name arguments s).steps.filterMap Step.event? =
      ((d.job r lines values).execute s).1.filter (fun e => e.line?.isNone) ∧
    d.EndsAs s name arguments r lines ((d.job r lines values).execute s).2
      (d.invoke name arguments s) := by
  obtain ⟨q, k, hq⟩ := d.exists_executed s r lines values
  have hevents := hq.filterMap_event?
  rcases hq.invoke_eq hresolve hbind hrender hvalues with
    ⟨hend, hinvoke⟩ | ⟨fault, hend, hinvoke⟩ | ⟨refusal, hend, hinvoke⟩
  · rw [hinvoke, Preparation.complete_eq hq.isFinal, hq.recipe, hq.lines]
    refine ⟨?_, .completed hend⟩
    rw [Invoked.steps, List.filterMap_append, hevents]
    exact List.append_nil _
  · obtain ⟨_, hafter⟩ := hq.stops _ hend
    obtain ⟨hexecution, hcode⟩ := hafter.isExecution
    rw [hinvoke, Preparation.fail_eq hq.isFinal name, hq.recipe, hq.lines]
    refine ⟨?_, .failed hend hexecution hcode rfl rfl rfl rfl⟩
    rw [Invoked.steps, List.append_assoc, List.filterMap_append, hevents]
    exact List.append_nil _
  · rw [hinvoke]
    exact ⟨hevents, .refused hend rfl (hq.refuses hresolve hbind hrender hvalues hend)⟩

end Dispatcher

end Runbook
