import Runbook.Proofs.Execution.Start
import Runbook.Proofs.Invocation.Executed

set_option autoImplicit false

/-! # What an invocation tells and starts

The status of an invocation is zero exactly if its result carries no fault. Whether it starts a process
is known before any line is executed: a recipe must be found, its arguments must bind, it must have a
line, and it must not be a dry run.
-/

namespace Runbook

/-- The recipe of a name, or the first one if no name is given. -/
def Registry.named? (registry : Registry) : Option Text → Option Recipe
  | none => registry.default?
  | some name => registry.find? name

namespace Dispatcher

variable {d : Dispatcher} {r : Recipe} {name : Option Text} {arguments : List Text} {b : Bindings}
  {s : Schedule} {steps : List Step} {result : InvocationResult} {fault : RunFault}

theorem resolve_eq_ok_iff : d.resolve name = .ok r ↔ d.registry.named? name = some r := by
  cases name with
  | none =>
      unfold resolve Registry.named?
      dsimp only
      cases d.registry.default? with
      | none => simp
      | some first => simp
  | some name =>
      unfold resolve Registry.named?
      dsimp only
      cases d.registry.find? name with
      | none => simp
      | some found => simp

/-- Arguments that bind to a recipe of a registry that was read give a line for each line of its
body, and values for the shell. -/
theorem exists_rendered {source : Option Path} {t : Text}
    (hload : Registry.ofText source t = .ok d.registry) (hresolve : d.resolve name = .ok r)
    (hbind : r.bind arguments = .ok b) :
    ∃ lines values, r.render b = .ok lines ∧ lines.length = r.body.length ∧
      d.positional r b = .ok values := by
  have hchecked := Registry.checked_of_ofText hload (mem_of_resolve hresolve)
  obtain ⟨⟨given, hgiven⟩, lines, hrender⟩ := hchecked.exists_render hbind
  obtain ⟨values, hvalues⟩ := exists_positional d hgiven
  refine ⟨lines, values, hrender, ?_, hvalues⟩
  unfold Recipe.render at hrender
  rcases Recipe.render_cases (r := r) (b := b) 0 r.body with
    ⟨_, _, herror⟩ | ⟨_, shown, hshown, hlength⟩
  · rw [herror] at hrender
    cases hrender
  · rw [hshown] at hrender
    cases hrender
    exact hlength

/-! ## Faults and statuses -/

theorem Preparation.result_of_fail {p : Preparation} (h : p.fail name fault = .ok (steps, result)) :
    result.status = fault.exitCode ∧ result.fault = some fault := by
  obtain ⟨q, _, hq⟩ := bind_eq_ok_iff.mp h
  cases hq
  exact ⟨rfl, rfl⟩

/-- A failure with a fault that has a status other than zero is told as one. -/
theorem Preparation.status_of_fail {p : Preparation} (h : p.fail name fault = .ok (steps, result))
    (hcode : fault.exitCode ≠ 0) : result.status = 0 ↔ result.fault = none := by
  obtain ⟨hstatus, hfault⟩ := result_of_fail h
  rw [hstatus, hfault]
  simp [hcode]

/-- Where lines are executed, a result has the status zero exactly if it has no fault. -/
theorem EndsAs.status_iff {lines : List Text} {stop : Option Stop}
    (h : d.EndsAs s name arguments r lines stop (.ok (steps, result))) :
    result.status = 0 ↔ result.fault = none := by
  cases h with
  | completed => exact iff_of_true rfl rfl
  | failed _ _ hcode _ _ hstatus hfault =>
      rw [hstatus, hfault]
      simp [hcode]

/-! ## Starts -/

/-- Whether some of the steps starts a process. -/
def Starts (steps : List Step) : Prop := ∃ event, Step.did event ∈ steps ∧ event.isStart = true

theorem starts_iff :
    Starts steps ↔ ∃ event ∈ steps.filterMap Step.event?, event.isStart = true := by
  unfold Starts
  refine exists_congr fun event => and_congr_left fun _ => ?_
  rw [List.mem_filterMap]
  constructor
  · exact fun hstep => ⟨_, hstep, rfl⟩
  · rintro ⟨step, hstep, hevent⟩
    cases step with
    | moved => cases hevent
    | failed => cases hevent
    | did other => cases hevent; exact hstep

/-- The announcements of lines, which are no steps of this kind, start nothing. -/
theorem starts_iff_of_events {events : List Event}
    (h : steps.filterMap Step.event? = events.filter fun e => e.line?.isNone) :
    Starts steps ↔ ∃ event ∈ events, event.isStart = true := by
  rw [starts_iff, h]
  refine exists_congr fun event => and_congr_left fun hstart => ?_
  rw [List.mem_filter, and_iff_left_iff_imp]
  intro _
  cases event with
  | announced => cases hstart
  | _ => rfl

/-! ## Outcomes -/

/-- What an invocation tells and starts: a result has the status zero exactly if it has no fault, and a
process is started exactly under a condition. -/
structure Tells (ending : Invoked) (condition : Prop) : Prop where
  status_iff : ∀ steps result, ending = .ok (steps, result) →
    (result.status = 0 ↔ result.fault = none)
  starts_iff : Starts ending.steps ↔ condition

/-- An invocation that fails before any line is executed has a status other than zero and starts
nothing, which is as it should be where a condition for a start does not hold. -/
theorem tells_of_early {p : Preparation} {condition : Prop} (hfault : fault.line? = none)
    (hfinal : p.tracker.stage.isFinal = false) (hnothing : p.steps.filterMap Step.event? = [])
    (hcondition : ¬ condition) : Tells (p.fail name fault) condition where
  status_iff := fun _ _ hfail =>
    Preparation.status_of_fail hfail (RunFault.exitCode_ne_zero_of_early hfault)
  starts_iff := by
    have hevents : (p.steps ++ [Step.moved p.tracker.stage .failed none] ++
        [Step.failed fault]).filterMap Step.event? = [] := by
      rw [List.append_assoc, List.filterMap_append, hnothing]
      rfl
    rw [Preparation.fail_eq hfinal name, starts_iff, Invoked.steps, hevents]
    exact iff_of_false (by simp) hcondition

/-- **What an invocation tells and starts.** The status of its result is zero exactly if there is no
fault. It starts a process exactly if it is not a dry run, a recipe is found, the arguments bind to it,
and it has a line; what then becomes of the processes has no part in it. -/
theorem invoke_tells {source : Option Path} {t : Text}
    (hload : Registry.ofText source t = .ok d.registry) (s : Schedule) (name : Option Text)
    (arguments : List Text) :
    Tells (d.invoke name arguments s) (d.dryRun = false ∧ ∃ r b, d.registry.named? name = some r ∧
      r.bind arguments = .ok b ∧ r.body ≠ []) := by
  simp only [← resolve_eq_ok_iff]
  cases hresolve : d.resolve name with
  | error fault =>
      rw [invoke_of_unresolved hresolve]
      refine tells_of_early (line?_of_resolve_error hresolve) rfl rfl ?_
      rintro ⟨_, r, _, hr, _⟩
      cases hr
  | ok r =>
      cases hbind : r.bind arguments with
      | error fault =>
          rw [invoke_of_unbound hresolve hbind]
          refine tells_of_early (Recipe.line?_of_bind_error hbind) rfl rfl ?_
          rintro ⟨_, _, b, ⟨⟩, hb, _⟩
          rw [hbind] at hb
          cases hb
      | ok b =>
          obtain ⟨lines, values, hrender, hlength, hvalues⟩ := exists_rendered hload hresolve hbind
          obtain ⟨hsteps, hends⟩ := invoke_executes (s := s) hresolve hbind hrender hvalues
          have hlines : (d.job r lines values).lines ≠ [] ↔ r.body ≠ [] := by
            rw [← List.length_pos_iff, ← List.length_pos_iff, ← hlength]
            rfl
          refine ⟨fun steps result hinvoke => ?_, ?_⟩
          · rw [hinvoke] at hends
            exact hends.status_iff
          · rw [starts_iff_of_events hsteps, Job.exists_isStart_iff, hlines]
            constructor
            · rintro ⟨hdry, _, hbody⟩
              exact ⟨hdry, r, b, rfl, hbind, hbody⟩
            · rintro ⟨hdry, _, _, ⟨⟩, _, hbody⟩
              exact ⟨hdry, Or.inr (Or.inr (shell_ne_nil d)), hbody⟩

end Dispatcher

end Runbook
