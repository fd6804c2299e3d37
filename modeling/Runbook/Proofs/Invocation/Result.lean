import Runbook.Invocation.Dispatcher
import Runbook.Proofs.Execution.Reached
import Runbook.Proofs.Invocation.Binding
import Runbook.Proofs.Invocation.Moves

set_option autoImplicit false

/-! # How an invocation ends

An invocation of a registry that was read from a text ends with a result unless the process of a line
is refused, which is the one thing that breaks it off. Its tracker is moved from two places, by the
invocation itself and by the announcements of lines; while lines are executed it is the tracker
`reached k`, where `k` is the line announced last, and from there every move that an invocation makes
is legal. The result is then consistent: stage, status, fault and line say the same.
-/

namespace Runbook

/-! ## Faults -/

namespace RunFault

/-- A fault that arises before any line is executed has a status that is not zero. -/
theorem exitCode_ne_zero_of_early {fault : RunFault} (h : fault.line? = none) :
    fault.exitCode ≠ 0 := by
  cases fault with
  | noRecipes => decide
  | unknownRecipe name suggestion => exact (by decide : (203 : Int) ≠ 0)
  | missingArgument recipe parameter expected got => exact (by decide : (204 : Int) ≠ 0)
  | extraArguments recipe extra capacity => exact (by decide : (205 : Int) ≠ 0)
  | unresolved recipe placeholder => exact (by decide : (206 : Int) ≠ 0)
  | notStarted recipe line command reason => cases h
  | exited recipe line status => cases h
  | killed recipe line signal => cases h

end RunFault

namespace Recipe

variable {r : Recipe} {arguments rest : List Text} {b : Bindings} {fault : RunFault}

theorem line?_of_bindPlain_error {got : Nat} {ps : List Parameter}
    (h : r.bindPlain got ps rest b = .error fault) : fault.line? = none := by
  induction ps generalizing rest b with
  | nil => cases h
  | cons p ps ih =>
      cases rest with
      | cons argument rest => exact ih h
      | nil =>
          rw [bindPlain] at h
          split at h
          · exact ih h
          · cases h
            rfl

theorem line?_of_bind_error (h : r.bind arguments = .error fault) : fault.line? = none := by
  rcases bind_eq_error_iff.mp h with h | ⟨⟨b, rest⟩, _, h⟩
  · exact line?_of_bindPlain_error h
  · dsimp only at h
    split at h
    · cases h
    · split at h
      · cases h
      · cases h
        rfl

/-- Arguments that bind to a checked recipe give values for the shell and lines to execute. -/
theorem Checked.exists_render (hr : r.Checked) (h : r.bind arguments = .ok b) :
    (∃ values, r.positionalValues b = .ok values) ∧ ∃ ls, r.render b = .ok ls := by
  obtain ⟨hfills, rfl⟩ := (bind_eq_ok_iff_fills hr.ordered).mp h
  have hbound : ∀ name ∈ r.parameters.map (·.name),
      ((r.bound arguments).get? name).isSome = true := by
    intro name hname
    rw [Bindings.isSome_get?_iff, names_bound hr.ordered hfills]
    exact hname
  refine ⟨exists_positionalValues fun p hp => hbound p.name (List.mem_map_of_mem hp), ?_⟩
  obtain ⟨ls, hls, _⟩ := Recipe.exists_render fun template ht name hname =>
    hbound name (hr.declared template ht name hname)
  exact ⟨ls, hls⟩

end Recipe

/-! ## The tracker -/

namespace Tracker

/-- The tracker of an execution that has announced its lines up to the `k`-th. -/
def reached : Nat → Tracker
  | 0 => ⟨.rendering, none⟩
  | k + 1 => ⟨.executing, some (k + 1)⟩

theorem advance_reached (k : Nat) :
    (reached k).advance .executing (some (k + 1 : Nat)) = .ok (reached (k + 1)) := by
  cases k with
  | zero => rfl
  | succ k =>
      have hgoes : (reached (k + 1)).GoesOn .executing (some (k + 1 + 1 : Nat)) :=
        ⟨rfl, rfl, _, _, rfl, rfl, by omega⟩
      exact advance_eq_ok_iff.mpr ⟨⟨rfl, Or.inr hgoes⟩, rfl⟩

theorem isFinal_reached (k : Nat) : (reached k).stage.isFinal = false := by
  cases k with
  | zero => rfl
  | succ k => rfl

variable {t : Tracker}

/-- From any stage that is not final an invocation may fail. -/
theorem advance_failed (h : t.stage.isFinal = false) :
    t.advance .failed none = .ok ⟨.failed, t.line⟩ :=
  advance_eq_ok_iff.mpr ⟨⟨h, Or.inl (Stage.precedes_of_isFinal h rfl)⟩, rfl⟩

/-- From any stage that is not final an invocation may be completed. -/
theorem advance_completed (h : t.stage.isFinal = false) :
    t.advance .completed none = .ok ⟨.completed, t.line⟩ :=
  advance_eq_ok_iff.mpr ⟨⟨h, Or.inl (Stage.precedes_of_isFinal h rfl)⟩, rfl⟩

end Tracker

namespace Dispatcher

namespace Preparation

variable {p : Preparation} {fault : RunFault}

/-- An invocation fails with the line that its tracker holds while lines are executed. -/
theorem fail_eq (h : p.tracker.stage.isFinal = false) (name : Option Text) :
    p.fail name fault = .ok
      (p.steps ++ [.moved p.tracker.stage .failed none] ++ [.failed fault], {
        status := fault.exitCode
        stage := .failed
        recipe := p.recipe.elim name fun r => some r.name
        lines := p.lines
        line := if p.tracker.stage == .executing then p.tracker.line else none
        fault := some fault }) := by
  unfold fail move
  rw [Tracker.advance_failed h]
  rfl

theorem complete_eq (h : p.tracker.stage.isFinal = false) :
    p.complete = .ok (p.steps ++ [.moved p.tracker.stage .completed none], {
      status := 0
      stage := .completed
      recipe := p.recipe.map (·.name)
      lines := p.lines }) := by
  unfold complete move
  rw [Tracker.advance_completed h]
  rfl

/-- The announcements of an execution are legal moves. -/
theorem along_reached {events : List Event} {k j : Nat} (hp : p.tracker = Tracker.reached k)
    (h : announcedLines events = List.range' (k + 1) j) :
    ∃ q, p.along events = .ok q ∧ q.tracker = Tracker.reached (k + j) ∧
      q.recipe = p.recipe ∧ q.lines = p.lines := by
  induction events generalizing p k j with
  | nil =>
      cases j with
      | zero => exact ⟨p, rfl, hp, rfl, rfl⟩
      | succ j => cases h
  | cons event more ih =>
      -- What announces no line leaves the tracker as it is.
      have hquiet : Event.line? event = none →
          Preparation.along p (event :: more) =
            Preparation.along { p with steps := p.steps ++ [Step.did event] } more →
          ∃ q, p.along (event :: more) = .ok q ∧ q.tracker = Tracker.reached (k + j) ∧
            q.recipe = p.recipe ∧ q.lines = p.lines := by
        intro hline halong
        rw [halong]
        refine ih (p := { p with steps := p.steps ++ [Step.did event] }) hp ?_
        rw [← h, announcedLines_cons, hline]
        rfl
      cases event with
      | announced line text =>
          cases j with
          | zero => cases h
          | succ j =>
              rw [announcedLines_cons, List.range'_succ] at h
              obtain ⟨rfl, hmore⟩ := List.cons.inj h
              let step : Step := .moved (Tracker.reached k).stage .executing (some (k + 1 : Nat))
              obtain ⟨q, hq, htracker, hrecipe, hlines⟩ := ih
                (p := ⟨.reached (k + 1), p.steps ++ [step], p.recipe, p.lines⟩) rfl hmore
              refine ⟨q, ?_, ?_, hrecipe, hlines⟩
              · rw [← hq, along, move, hp, Tracker.advance_reached]
                rfl
              · rw [htracker]
                congr 1
                omega
      | echoed text => exact hquiet rfl rfl
      | started words environment directory => exact hquiet rfl rfl
      | received signal => exact hquiet rfl rfl
      | relayed signal => exact hquiet rfl rfl
      | waited status => exact hquiet rfl rfl

end Preparation

/-- An invocation that is about to execute lines. -/
def Preparation.rendered (r : Recipe) (ls : List Text) : Preparation where
  tracker := .reached 0
  steps := [.moved .idle .resolving none, .moved .resolving .binding none,
    .moved .binding .rendering none]
  recipe := some r
  lines := ls

/-! ## The three ways of an invocation -/

variable {d : Dispatcher} {name : Option Text} {arguments : List Text} {schedule : Schedule}
  {r : Recipe} {b : Bindings} {ls : List Text} {values : Option (List Text)} {fault : RunFault}

theorem shell_ne_nil (d : Dispatcher) : d.shell ≠ [] := by
  unfold shell
  split
  · exact List.cons_ne_nil _ _
  · split
    · decide
    · next h => simpa using h

theorem mem_of_resolve (h : d.resolve name = .ok r) : r ∈ d.registry.recipes := by
  cases name with
  | none =>
      rw [resolve] at h
      split at h
      · next hfirst =>
          cases h
          exact List.mem_of_head? hfirst
      · cases h
  | some name =>
      rw [resolve] at h
      split at h
      · next hfind =>
          cases h
          exact List.mem_of_find?_eq_some hfind
      · cases h

theorem line?_of_resolve_error (h : d.resolve name = .error fault) : fault.line? = none := by
  cases name with
  | none =>
      rw [resolve] at h
      split at h
      · cases h
      · cases h
        rfl
  | some name =>
      rw [resolve] at h
      split at h
      · cases h
      · cases h
        rfl

/-- Where no recipe is found, the invocation fails while it resolves. -/
theorem invoke_of_unresolved (h : d.resolve name = .error fault) :
    d.invoke name arguments schedule = Preparation.fail
      { tracker := ⟨.resolving, none⟩, steps := [.moved .idle .resolving none] } name fault := by
  unfold invoke
  rw [h]
  rfl

/-- Where the arguments do not bind, the invocation fails while it binds. -/
theorem invoke_of_unbound (hr : d.resolve name = .ok r) (hb : r.bind arguments = .error fault) :
    d.invoke name arguments schedule = Preparation.fail
      { tracker := ⟨.binding, none⟩
        steps := [.moved .idle .resolving none, .moved .resolving .binding none]
        recipe := some r } name fault := by
  unfold invoke
  rw [hr]
  dsimp only
  rw [hb]
  rfl

/-- Where they do, the lines are executed. -/
theorem invoke_of_bound (hr : d.resolve name = .ok r) (hb : r.bind arguments = .ok b)
    (hrender : r.render b = .ok ls) (hvalues : d.positional r b = .ok values) :
    d.invoke name arguments schedule = (do
      let p ← (Preparation.rendered r ls).along ((d.job r ls values).execute schedule).1
      match ((d.job r ls values).execute schedule).2 with
      | none => p.complete
      | some (.fault fault) => p.fail name fault
      | some .noCommand => .error (p.breakOff .noCommand)
      | some (.refused refusal) => .error (p.breakOff (.refused refusal))) := by
  unfold invoke
  rw [hr]
  dsimp only
  rw [hb]
  dsimp only
  rw [hrender]
  dsimp only
  rw [hvalues]
  rfl

/-- An invocation whose lines have been executed, the `k`-th being the last that was announced. -/
structure Executed (d : Dispatcher) (s : Schedule) (r : Recipe) (ls : List Text)
    (values : Option (List Text)) (q : Preparation) (k : Nat) : Prop where
  along : (Preparation.rendered r ls).along ((d.job r ls values).execute s).1 = .ok q
  tracker : q.tracker = .reached k
  recipe : q.recipe = some r
  lines : q.lines = ls
  le : k ≤ ls.length
  stops : ∀ stop, ((d.job r ls values).execute s).2 = some stop →
    1 ≤ k ∧ (d.job r ls values).StopsAfter s k stop

/-- The announcements of an execution are legal moves, so that it is gone through to its end. -/
theorem exists_executed (d : Dispatcher) (s : Schedule) (r : Recipe) (ls : List Text)
    (values : Option (List Text)) : ∃ q k, d.Executed s r ls values q k := by
  have hannounce : (d.job r ls values).announce = true := rfl
  obtain ⟨k, hk, hannounced, hstops⟩ := Job.execute_reached hannounce (shell_ne_nil d) s
  obtain ⟨q, halong, htracker, hrecipe, hlines⟩ :=
    Preparation.along_reached (p := .rendered r ls) (k := 0) rfl hannounced
  rw [Nat.zero_add] at htracker
  exact ⟨q, k, halong, htracker, hrecipe, hlines, hk, hstops⟩

theorem Executed.isFinal {q : Preparation} {k : Nat} (h : d.Executed schedule r ls values q k) :
    q.tracker.stage.isFinal = false := by
  rw [h.tracker]
  exact Tracker.isFinal_reached k

/-- How an invocation ends whose lines are executed: with a result, or broken off because the process of
its last line is refused. -/
theorem Executed.invoke_eq {q : Preparation} {k : Nat} (h : d.Executed schedule r ls values q k)
    (hr : d.resolve name = .ok r) (hb : r.bind arguments = .ok b) (hrender : r.render b = .ok ls)
    (hvalues : d.positional r b = .ok values) :
    (((d.job r ls values).execute schedule).2 = none ∧
      d.invoke name arguments schedule = q.complete) ∨
    (∃ fault, ((d.job r ls values).execute schedule).2 = some (.fault fault) ∧
      d.invoke name arguments schedule = q.fail name fault) ∨
    ∃ refusal, ((d.job r ls values).execute schedule).2 = some (.refused refusal) ∧
      d.invoke name arguments schedule = .error (q.breakOff (.refused refusal)) := by
  rw [invoke_of_bound hr hb hrender hvalues, h.along, ok_bind]
  cases hstop : ((d.job r ls values).execute schedule).2 with
  | none => exact Or.inl ⟨rfl, rfl⟩
  | some stop =>
      cases stop with
      | fault fault => exact Or.inr (Or.inl ⟨fault, rfl, rfl⟩)
      | refused refusal => exact Or.inr (Or.inr ⟨refusal, rfl, rfl⟩)
      | noCommand => cases (h.stops _ hstop).2

/-- The values for the shell, if the recipe file asks for them. -/
theorem exists_positional (d : Dispatcher) {values : List Text}
    (h : r.positionalValues b = .ok values) : ∃ values?, d.positional r b = .ok values? := by
  unfold positional
  rw [h]
  split
  · exact ⟨_, rfl⟩
  · exact ⟨_, rfl⟩

/-! ## Refusals -/

/-- The lines are executed, and the first turn that there is a reason to stop at is one whose process is
refused. -/
inductive Refuses (d : Dispatcher) (s : Schedule) (name : Option Text) (arguments : List Text) :
    Refusal → Prop
  | intro {r : Recipe} {b : Bindings} {ls : List Text} {values : Option (List Text)} {k : Nat}
      {refusal : Refusal} (hdry : d.dryRun = false) (hresolve : d.resolve name = .ok r)
      (hbind : r.bind arguments = .ok b) (hrender : r.render b = .ok ls)
      (hvalues : d.positional r b = .ok values)
      (hfirst : (d.job r ls values).FirstStop s ls.length k)
      (hfate : (s.child k).fate = .refused refusal) : Refuses d s name arguments refusal

/-- The schedule of an invocation that refuses has a process that is refused. -/
theorem Refuses.exists_child {refusal : Refusal} (h : d.Refuses schedule name arguments refusal) :
    ∃ k, (schedule.child k).fate = .refused refusal := by
  obtain ⟨_, _, _, _, _, _, hfate⟩ := h
  exact ⟨_, hfate⟩

/-- A refusal breaks the invocation off. -/
theorem Refuses.exists_break {refusal : Refusal} (h : d.Refuses schedule name arguments refusal) :
    ∃ broken, d.invoke name arguments schedule = .error broken ∧ broken.cause = .refused refusal := by
  obtain ⟨hdry, hresolve, hbind, hrender, hvalues, hfirst, hfate⟩ := h
  next r b ls values k =>
  have hwords : (d.job r ls values).HasWords := Or.inr (Or.inr (shell_ne_nil d))
  have hstop : ((d.job r ls values).execute schedule).2 = some (.refused refusal) :=
    Job.execute_of_refused hdry hwords hfirst hfate
  obtain ⟨q, k, hq⟩ := d.exists_executed schedule r ls values
  rcases hq.invoke_eq hresolve hbind hrender hvalues with
    ⟨hend, _⟩ | ⟨fault, hend, _⟩ | ⟨other, hend, hinvoke⟩
  · rw [hstop] at hend
    cases hend
  · rw [hstop] at hend
    cases hend
  · rw [hstop] at hend
    cases hend
    exact ⟨_, hinvoke, rfl⟩

/-- An execution that stops because a process is refused is one of an invocation that refuses. -/
theorem Executed.refuses {q : Preparation} {k : Nat} {refusal : Refusal}
    (h : d.Executed schedule r ls values q k)
    (hr : d.resolve name = .ok r) (hb : r.bind arguments = .ok b) (hrender : r.render b = .ok ls)
    (hvalues : d.positional r b = .ok values)
    (hstop : ((d.job r ls values).execute schedule).2 = some (.refused refusal)) :
    d.Refuses schedule name arguments refusal := by
  obtain ⟨_, hafter⟩ := h.stops _ hstop
  cases hafter with
  | refused hdry hfirst hfate => exact .intro hdry hr hb hrender hvalues hfirst hfate

/-! ## Results -/

/-- What the result of an invocation says agrees with itself, with what has been found, and with
what has been done. -/
structure Consistent (d : Dispatcher) (s : Schedule) (name : Option Text) (arguments : List Text)
    (steps : List Step) (result : InvocationResult) : Prop where
  ended : result.stage = .completed ∨ result.stage = .failed
  completed_iff : result.stage = .completed ↔ result.status = 0
  succeeded_iff : result.status = 0 ↔ result.fault = none
  failed : result.stage = .failed → ∃ fault, result.fault = some fault ∧
    result.status = fault.exitCode ∧ result.status ≠ 0
  line_iff : result.line ≠ none ↔ ∃ fault ∈ result.fault, fault.isExecution = true
  line : d.dryRun = false → ∀ fault ∈ result.fault, ∀ i, fault.line? = some i →
    result.line = some (i : Int) ∧ 1 ≤ i ∧ i ≤ result.lines.length
  /-- A fault of a dry run is a signal that has arrived while a line was announced, and is found when
  the next line is about to be: the fault is one of this next line, and the line of the result is the
  one before it. -/
  line_dryRun : d.dryRun = true → ∀ fault ∈ result.fault, ∀ i, fault.line? = some i →
    ∃ k, i = k + 1 ∧ s.announced k ≠ [] ∧ result.line = some (k : Int) ∧ 1 ≤ k ∧
      i ≤ result.lines.length
  rendered : ∀ r b, d.resolve name = .ok r → r.bind arguments = .ok b →
    r.render b = .ok result.lines
  not_rendered : (∀ r b, d.resolve name = .ok r → r.bind arguments ≠ .ok b) → result.lines = []
  nothing_done : ∀ fault ∈ result.fault, fault.isExecution = false →
    ∀ event, Step.did event ∉ steps

/-- An invocation that fails before any line is executed. -/
theorem exists_consistent_of_early {p : Preparation} (hfault : fault.line? = none)
    (hstage : p.tracker.stage = .resolving ∨ p.tracker.stage = .binding)
    (hsteps : ∀ event, Step.did event ∉ p.steps) (hlines : p.lines = [])
    (hunbound : ∀ r b, d.resolve name = .ok r → r.bind arguments ≠ .ok b) :
    ∃ steps result, p.fail name fault = .ok (steps, result) ∧
      d.Consistent schedule name arguments steps result := by
  have hfinal : p.tracker.stage.isFinal = false := by
    rcases hstage with h | h
    · rw [h]; rfl
    · rw [h]; rfl
  have hnotExecuting : (p.tracker.stage == .executing) = false := by
    rcases hstage with h | h
    · rw [h]; rfl
    · rw [h]; rfl
  have hcode := RunFault.exitCode_ne_zero_of_early hfault
  have hearly : fault.isExecution = false := by
    unfold RunFault.isExecution
    rw [hfault]
    rfl
  refine ⟨_, _, Preparation.fail_eq hfinal name, ?_⟩
  rw [hnotExecuting]
  exact {
    ended := Or.inr rfl
    completed_iff := by simp [hcode]
    succeeded_iff := by simp [hcode]
    failed := fun _ => ⟨fault, rfl, rfl, hcode⟩
    line_iff := by simp [hearly]
    line := by
      rintro _ _ ⟨⟩ i hi
      rw [hfault] at hi
      cases hi
    line_dryRun := by
      rintro _ _ ⟨⟩ i hi
      rw [hfault] at hi
      cases hi
    rendered := fun r b hr hb => absurd hb (hunbound r b hr)
    not_rendered := fun _ => hlines
    nothing_done := fun _ _ _ event => by simp [hsteps event] }

/-- A recipe and bindings that are found are the only ones. -/
theorem render_of_bound (hr : d.resolve name = .ok r) (hb : r.bind arguments = .ok b)
    (hrender : r.render b = .ok ls) :
    ∀ r' b', d.resolve name = .ok r' → r'.bind arguments = .ok b' → r'.render b' = .ok ls := by
  intro r' b' hr' hb'
  rw [hr] at hr'
  cases hr'
  rw [hb] at hb'
  cases hb'
  exact hrender

/-- An invocation that fails while its lines are executed. -/
theorem exists_consistent_of_fault {q : Preparation} {k : Nat}
    (hq : d.Executed schedule r ls values q k) (hr : d.resolve name = .ok r)
    (hb : r.bind arguments = .ok b) (hrender : r.render b = .ok ls)
    (hstop : ((d.job r ls values).execute schedule).2 = some (.fault fault)) :
    ∃ steps result, q.fail name fault = .ok (steps, result) ∧
      d.Consistent schedule name arguments steps result := by
  obtain ⟨hone, hafter⟩ := hq.stops _ hstop
  obtain ⟨hexecution, hcode⟩ := hafter.isExecution
  -- A line has been announced, so that the tracker holds the last one.
  obtain ⟨j, rfl⟩ := Nat.exists_eq_succ_of_ne_zero (Nat.ne_of_gt hone)
  refine ⟨_, _, Preparation.fail_eq hq.isFinal name, ?_⟩
  rw [hq.tracker, hq.lines]
  exact {
    ended := Or.inr rfl
    completed_iff := by simp [hcode]
    succeeded_iff := by simp [hcode]
    failed := fun _ => ⟨fault, rfl, rfl, hcode⟩
    line_iff := by simp [hexecution, Tracker.reached]
    line := by
      rintro hno _ ⟨⟩ i hi
      cases hafter with
      | fault hdry hline =>
          rw [hline] at hi
          cases hi
          exact ⟨rfl, hone, hq.le⟩
      | signalled hdry => exact absurd (hno.symm.trans hdry) Bool.false_ne_true
    line_dryRun := by
      rintro hyes _ ⟨⟩ i hi
      cases hafter with
      | fault hdry => exact absurd (hdry.symm.trans hyes) Bool.false_ne_true
      | signalled hdry hlt hsignal =>
          cases hi
          exact ⟨j + 1, rfl, List.ne_nil_of_mem hsignal, rfl, hone, hlt⟩
    rendered := render_of_bound hr hb hrender
    not_rendered := fun h => absurd hb (h r b hr)
    nothing_done := by
      rintro _ ⟨⟩ hearly
      rw [hexecution] at hearly
      cases hearly }

/-- An invocation all lines of which have succeeded. -/
theorem exists_consistent_of_completed {q : Preparation} {k : Nat}
    (hq : d.Executed schedule r ls values q k) (hr : d.resolve name = .ok r)
    (hb : r.bind arguments = .ok b) (hrender : r.render b = .ok ls) :
    ∃ steps result, q.complete = .ok (steps, result) ∧
      d.Consistent schedule name arguments steps result := by
  refine ⟨_, _, Preparation.complete_eq hq.isFinal, ?_⟩
  rw [hq.lines]
  exact {
    ended := Or.inl rfl
    completed_iff := by simp
    succeeded_iff := by simp
    failed := by simp
    line_iff := by simp
    line := by simp
    line_dryRun := by simp
    rendered := render_of_bound hr hb hrender
    not_rendered := fun h => absurd hb (h r b hr)
    nothing_done := by simp }

/-- An invocation in which no process is refused has a result that is consistent. -/
theorem exists_consistent {source : Option Path} {t : Text}
    (hload : Registry.ofText source t = .ok d.registry)
    (hno : ¬ ∃ refusal, d.Refuses schedule name arguments refusal) :
    ∃ steps result, d.invoke name arguments schedule = .ok (steps, result) ∧
      d.Consistent schedule name arguments steps result := by
  cases hresolve : d.resolve name with
  | error fault =>
      rw [invoke_of_unresolved hresolve]
      refine exists_consistent_of_early (line?_of_resolve_error hresolve) (Or.inl rfl) (by simp) rfl
        fun r b hr => ?_
      rw [hresolve] at hr
      cases hr
  | ok r =>
      cases hbind : r.bind arguments with
      | error fault =>
          rw [invoke_of_unbound hresolve hbind]
          refine exists_consistent_of_early (Recipe.line?_of_bind_error hbind) (Or.inr rfl)
            (by simp) rfl fun r' b hr hb => ?_
          rw [hresolve] at hr
          cases hr
          rw [hbind] at hb
          cases hb
      | ok b =>
          have hchecked := Registry.checked_of_ofText hload (mem_of_resolve hresolve)
          obtain ⟨⟨values, hvalues⟩, ls, hrender⟩ := hchecked.exists_render hbind
          obtain ⟨values, hvalues⟩ := exists_positional d hvalues
          obtain ⟨q, k, hq⟩ := d.exists_executed schedule r ls values
          rcases hq.invoke_eq hresolve hbind hrender hvalues with
            ⟨_, hinvoke⟩ | ⟨fault, hstop, hinvoke⟩ | ⟨refusal, hstop, _⟩
          · rw [hinvoke]
            exact exists_consistent_of_completed hq hresolve hbind hrender
          · rw [hinvoke]
            exact exists_consistent_of_fault hq hresolve hbind hrender hstop
          · exact absurd ⟨refusal, hq.refuses hresolve hbind hrender hvalues hstop⟩ hno

/-- **An invocation ends with a result that is consistent, unless the process of a line is refused.**
The registry may be any that is read from a text, and the schedule any. A refusal breaks the
invocation off, and nothing else does. -/
theorem invoke_consistent {source : Option Path} {t : Text}
    (hload : Registry.ofText source t = .ok d.registry) (s : Schedule) (name : Option Text)
    (arguments : List Text) :
    ((¬ ∃ refusal, d.Refuses s name arguments refusal) →
      ∃ steps result, d.invoke name arguments s = .ok (steps, result) ∧
        d.Consistent s name arguments steps result) ∧
    ∀ refusal, d.Refuses s name arguments refusal →
      ∃ broken, d.invoke name arguments s = .error broken ∧ broken.cause = .refused refusal :=
  ⟨fun hno => exists_consistent hload hno, fun _ hrefuses => hrefuses.exists_break⟩

/-- In a dry run a signal that arrives while a line is announced is found before the next line is,
so that the tracker stays at the line before that of the fault. -/
example :
    let r : Recipe := { name := ['r'], body := [['a'], ['b']] }
    let d : Dispatcher := { registry := { recipes := [r] }, dryRun := true }
    let schedule : Schedule := { announced := fun i => if i = 1 then [.hangup] else [] }
    (d.invoke none [] schedule).map (fun done => (done.2.line, done.2.fault)) =
      .ok (some 1, some (.killed ['r'] 2 1)) := by
  decide +kernel

/-- The theorem at a recipe the second line of which is ended by a signal that arrives while it is
announced. -/
theorem invoke_consistent_signalled :
    let t := "r x:\n  a {{x}}\n  b\n  c\n".toList
    let r : Recipe := {
      name := ['r']
      parameters := [⟨['x'], none, false⟩]
      body := ["a {{x}}".toList, ['b'], ['c']]
      line := 1 }
    let d : Dispatcher := { registry := { recipes := [r] }, echo := false }
    let schedule : Schedule := { announced := fun i => if i = 2 then [.hangup] else [] }
    (Registry.ofText none t = .ok d.registry ∧
      ¬ ∃ refusal, d.Refuses schedule none [['1']] refusal) ∧
    ∃ steps result, d.invoke none [['1']] schedule = .ok (steps, result) ∧
      d.Consistent schedule none [['1']] steps result := by
  intro t r d schedule
  have hload : Registry.ofText none t = .ok d.registry := by decide +kernel
  have hno : ¬ ∃ refusal, d.Refuses schedule none [['1']] refusal := by
    rintro ⟨refusal, hrefuses⟩
    obtain ⟨k, hfate⟩ := hrefuses.exists_child
    cases hfate
  exact ⟨⟨hload, hno⟩, (invoke_consistent hload schedule none [['1']]).1 hno⟩

/-- A recipe with a null character in a line can be read, but no process can be given the line: with
the default shell, the invocation breaks off and has no result. -/
theorem invoke_refused_without_result :
    let t := "a:\n    x\x00y\n".toList
    let r : Recipe := { name := ['a'], body := ["x\x00y".toList], line := 1 }
    let d : Dispatcher := { registry := { recipes := [r] } }
    let words := ["sh".toList, "-cu".toList, "x\x00y".toList]
    let schedule : Schedule := { children := [{ fate := .refused .nullCharacter }] }
    let broken : Break := {
      steps := [.moved .idle .resolving none, .moved .resolving .binding none,
        .moved .binding .rendering none, .moved .rendering .executing (some 1),
        .did (.echoed "x\x00y".toList), .did (.started words none none)]
      recipe := some ['a']
      cause := .refused .nullCharacter }
    Registry.ofText none t = .ok d.registry ∧
      refusal? words [] = some .nullCharacter ∧
      d.invoke none [] schedule = .error broken ∧
      ¬ ∃ steps result, d.invoke none [] schedule = .ok (steps, result) := by
  intro t r d words schedule broken
  have hload : Registry.ofText none t = .ok d.registry := by decide +kernel
  have hinvoke : d.invoke none [] schedule = .error broken := by decide +kernel
  refine ⟨hload, by decide, hinvoke, ?_⟩
  rintro ⟨steps, result, hresult⟩
  rw [hinvoke] at hresult
  cases hresult

end Dispatcher

end Runbook
