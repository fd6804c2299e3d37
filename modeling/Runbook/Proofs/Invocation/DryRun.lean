import Runbook.Proofs.Invocation.Arguments

set_option autoImplicit false

/-! # A dry run foretells the run

A dry run prints all the lines of a recipe and starts nothing. The run of the same recipe with the
same arguments goes through the same lines from the first on, and may stop early: the lines that it
tries to run, and those that it prints, are a beginning of what the dry run has printed. Where no line
is executed at all the two end in the same way, and so they do where every process succeeds and no
signal arrives.

What a dry run does not foretell is that the process of a line is refused. It gives nothing to any
process, so that it does not look at what could be given; the run breaks off at such a line and has no
result, where the dry run is completed.
-/

namespace Runbook

/-- The line that is printed. -/
def Event.echoed? : Event → Option Text
  | echoed text => some text
  | _ => none

/-- The line that a step prints. -/
def Step.echoed? (step : Step) : Option Text := step.event?.bind Event.echoed?

namespace Job

variable {job : Job} {s : Schedule} {i n : Nat} {text : Text}

/-! ## What is printed -/

theorem echoed_opening (announced : List Signal) :
    (job.opening announced i text).filterMap Event.echoed? =
      if job.echo || job.dryRun then [text] else [] := by
  rw [filterMap_opening fun _ => ⟨rfl, rfl⟩]
  show (if job.announce then [] else []) ++ (if job.echo || job.dryRun then [text] else []) = _
  rw [ite_self]
  rfl

/-- A turn prints its own line, if lines are printed at all. -/
theorem echoed_turn (hdry : job.dryRun = false) :
    (job.turn s i text).filterMap Event.echoed? = if job.echo then [text] else [] := by
  rw [filterMap_turn (fun _ => ⟨rfl, rfl⟩) fun _ => rfl, echoed_opening, hdry, Bool.or_false]
  cases argv text job.shell job.recipe job.positional with
  | none => exact List.append_nil _
  | some words => exact List.append_nil _

theorem echoed_turns (hdry : job.dryRun = false) (n : Nat) (ls : List Text) :
    (job.turns s n ls).filterMap Event.echoed? = if job.echo then ls else [] := by
  induction ls generalizing n with
  | nil => exact (ite_self []).symm
  | cons text more ih =>
      rw [turns_cons, List.filterMap_append, echoed_turn hdry, ih]
      cases job.echo with
      | true => rfl
      | false => rfl

/-! ## Executions -/

/-- What stands behind the line in the words of its process is the same for every line. -/
theorem exists_argv_eq (hwords : job.HasWords) : ∃ extra, ∀ text,
    argv text job.shell job.recipe job.positional = some (job.shell ++ text :: extra) := by
  unfold argv
  cases hpositional : job.positional with
  | none => exact ⟨[], fun text => rfl⟩
  | some arguments =>
      by_cases hrecipe : job.recipe = []
      · obtain ⟨command, rest, hshell⟩ : ∃ command rest, job.shell = command :: rest := by
          have hne := (hwords.resolve_left (by simp [hpositional])).resolve_left (· hrecipe)
          exact List.exists_cons_of_ne_nil hne
        exact ⟨command :: arguments, fun text => by simp [hrecipe, hshell]⟩
      · exact ⟨job.recipe :: arguments, fun text => by simp [hrecipe]⟩

theorem echoed_openings (hdry : job.dryRun = true) (n : Nat) (ls : List Text) :
    (job.openings s n ls).filterMap Event.echoed? = ls := by
  induction ls generalizing n with
  | nil => rfl
  | cons text more ih =>
      rw [openings_cons, List.filterMap_append, ih, echoed_opening, hdry, Bool.or_true, if_pos rfl]
      rfl

/-- **A dry run prints its lines**, starts nothing, and returns, if no signal arrives. -/
theorem execute_of_dryRun (hdry : job.dryRun = true) (hquiet : ∀ i, s.announced i = []) :
    (job.execute s).1.filterMap Event.words? = [] ∧
      (job.execute s).1.filterMap Event.echoed? = job.lines ∧ (job.execute s).2 = none := by
  unfold execute
  rcases runFrom_dryRun (s := s) hdry 1 s.children job.lines with
    ⟨hrun, _⟩ | ⟨k, signal, _, hmem, _⟩
  · rw [hrun]
    refine ⟨?_, echoed_openings hdry 1 job.lines, rfl⟩
    unfold openings
    rw [List.filterMap_flatMap, List.flatMap_eq_nil_iff]
    exact fun place _ => words_opening _
  · unfold heard at hmem
    rw [hquiet, ite_self] at hmem
    cases hmem

/-- **A run tries to run its first lines**, up to the one it stops at, and prints these if lines are
printed. -/
theorem exists_attempted (hdry : job.dryRun = false) (hwords : job.HasWords) (s : Schedule) :
    ∃ attempted extra, attempted <+: job.lines ∧
      (job.execute s).1.filterMap Event.words? =
        attempted.map (fun line => job.shell ++ line :: extra) ∧
      (job.execute s).1.filterMap Event.echoed? = (if job.echo then attempted else []) ∧
      ((∀ i, 1 ≤ i → i ≤ job.lines.length → ¬ job.StopsAt s i) →
        attempted = job.lines ∧ (job.execute s).2 = none) := by
  obtain ⟨extra, hargv⟩ := exists_argv_eq hwords
  obtain ⟨k, hlast, hevents⟩ := exists_lastTurn hdry s
  refine ⟨job.lines.take k, extra, List.take_prefix k job.lines, ?_, ?_, fun hgo => ⟨?_, ?_⟩⟩
  · rw [hevents, words_turns, ← List.filterMap_eq_map]
    exact List.filterMap_congr fun text _ => hargv text
  · rw [hevents, echoed_turns hdry]
  · refine List.take_of_length_le (Nat.le_of_not_lt fun hlt => ?_)
    obtain ⟨hone, hstop⟩ := hlast.stops hlt
    exact hgo k hone hlast.le hstop
  · rcases execute_outcome hdry s with ⟨_, hrun⟩ | ⟨j, stop, text, hfirst, _, _⟩
    · rw [hrun]
    · exact absurd hfirst.stops (hgo j hfirst.pos hfirst.le)

/-- A process that succeeds while no signal arrives is no reason to stop. -/
theorem not_stopsAt_of_succeeds (hwords : job.HasWords) (hquiet : s.announced i = [])
    (hchild : s.child i = ⟨[], .ends 0 [] []⟩) : ¬ job.StopsAt s i := by
  have hreceived : job.received s i = [] := by
    unfold received heard
    rw [hquiet, hchild, ite_self]
    rfl
  intro h
  cases h with
  | noWords h => exact h hwords
  | notStarted h =>
      rw [hchild] at h
      cases h
  | refused h =>
      rw [hchild] at h
      cases h
  | failed h hne =>
      rw [hchild] at h
      cases h
      exact hne rfl
  | signalled h => exact h hreceived

end Job

/-! ## Invocations -/

namespace Dispatcher

variable {d : Dispatcher} {s : Schedule} {name : Option Text} {arguments : List Text}

/-- What the dry run of an invocation says about its run, which may end with a result or be broken
off. -/
structure Foretells (d : Dispatcher) (s : Schedule) (name : Option Text) (arguments : List Text)
    (dry : List Step × InvocationResult) (real : Invoked) : Prop where
  starts_nothing : dry.1.filterMap Step.words? = []
  prints : dry.1.filterMap Step.echoed? = dry.2.lines
  rendered : ∀ r b, d.resolve name = .ok r → r.bind arguments = .ok b →
    r.render b = .ok dry.2.lines
  not_rendered : (∀ r b, d.resolve name = .ok r → r.bind arguments ≠ .ok b) → dry.2.lines = []
  same_recipe : ∀ steps result, real = .ok (steps, result) → result.recipe = dry.2.recipe
  same_lines : ∀ steps result, real = .ok (steps, result) → result.lines = dry.2.lines
  /-- Before any line is executed, both fail alike. -/
  same_failure : ∀ fault, fault.isExecution = false →
    (dry.2.fault = some fault ∨
      ∃ steps result, real = .ok (steps, result) ∧ result.fault = some fault) →
    ∃ steps, real = .ok (steps, dry.2)
  /-- The lines that the run tries to run are the first ones of those that the dry run prints. They
  are all of them, and the results are the same, if all processes succeed without any signal. -/
  attempts : ∃ attempted extra, attempted <+: dry.1.filterMap Step.echoed? ∧
    real.steps.filterMap Step.words? = attempted.map (fun line => d.shell ++ line :: extra) ∧
    real.steps.filterMap Step.echoed? = (if d.echo then attempted else []) ∧
    ((∀ i, 1 ≤ i → i ≤ dry.2.lines.length → s.child i = ⟨[], .ends 0 [] []⟩) →
      attempted = dry.2.lines ∧ ∃ steps, real = .ok (steps, dry.2))
  /-- The run has a result unless a process is refused. -/
  returns : (¬ ∃ refusal, { d with dryRun := false }.Refuses s name arguments refusal) →
    ∃ steps result, real = .ok (steps, result)
  /-- A refusal, of which the dry run knows nothing, breaks the run off. -/
  breaks_off : ∀ refusal, { d with dryRun := false }.Refuses s name arguments refusal →
    dry.2.fault = none ∧ ∃ broken, real = .error broken ∧ broken.cause = .refused refusal

theorem echoed_steps {steps : List Step} {events : List Event}
    (h : steps.filterMap Step.event? = events.filter fun e => e.line?.isNone) :
    steps.filterMap Step.echoed? = events.filterMap Event.echoed? :=
  filterMap_steps (fun _ _ => rfl) h

/-- Invocations that fail in the same way before any line is executed. -/
theorem foretells_of_early {done : List Step × InvocationResult}
    (hsteps : done.1.filterMap Step.event? = []) (hlines : done.2.lines = [])
    (hunbound : ∀ r b, d.resolve name = .ok r → r.bind arguments ≠ .ok b) :
    d.Foretells s name arguments done (.ok done) := by
  have hwords : done.1.filterMap Step.words? = [] := @words_steps done.1 [] hsteps
  have hechoed : done.1.filterMap Step.echoed? = [] := @echoed_steps done.1 [] hsteps
  exact {
    starts_nothing := hwords
    prints := by rw [hechoed, hlines]
    rendered := fun r b hr hb => absurd hb (hunbound r b hr)
    not_rendered := fun _ => hlines
    same_recipe := by rintro _ _ ⟨⟩; rfl
    same_lines := by rintro _ _ ⟨⟩; rfl
    same_failure := fun _ _ _ => ⟨_, rfl⟩
    attempts := ⟨[], [], List.nil_prefix, hwords, by rw [ite_self]; exact hechoed,
      fun _ => ⟨hlines.symm, _, rfl⟩⟩
    returns := fun _ => ⟨_, _, rfl⟩
    breaks_off := by
      rintro refusal ⟨_, hresolve, hbind, _⟩
      exact absurd hbind (hunbound _ _ hresolve) }

/-- Invocations that execute lines, one of them dry. -/
theorem exists_foretells_of_bound {r : Recipe} {b : Bindings} {lines : List Text}
    {values : Option (List Text)} (hquiet : ∀ i, s.announced i = [])
    (hresolve : d.resolve name = .ok r) (hbind : r.bind arguments = .ok b)
    (hrender : r.render b = .ok lines) (hvalues : d.positional r b = .ok values) :
    ∃ dry, { d with dryRun := true }.invoke name arguments s = .ok dry ∧
      d.Foretells s name arguments dry ({ d with dryRun := false }.invoke name arguments s) := by
  have hdryJob : (({ d with dryRun := true } : Dispatcher).job r lines values).dryRun = true := rfl
  have hrealJob : (({ d with dryRun := false } : Dispatcher).job r lines values).dryRun = false :=
    rfl
  have hwords : (({ d with dryRun := false } : Dispatcher).job r lines values).HasWords :=
    Or.inr (Or.inr (shell_ne_nil d))
  obtain ⟨hnothing, hprinted, hreturns⟩ := Job.execute_of_dryRun hdryJob hquiet
  obtain ⟨attempted, extra, hattempted, hstarted, hechoed, hall⟩ :=
    Job.exists_attempted hrealJob hwords s
  obtain ⟨hdrySteps, hdryEnd⟩ :=
    invoke_executes (d := { d with dryRun := true }) (s := s) hresolve hbind hrender hvalues
  obtain ⟨hrealSteps, hrealEnd⟩ :=
    invoke_executes (d := { d with dryRun := false }) (s := s) hresolve hbind hrender hvalues
  -- The dry run returns, so that it is completed.
  obtain ⟨steps, hdry⟩ : ∃ steps, ({ d with dryRun := true } : Dispatcher).invoke name arguments s =
      .ok (steps, { status := 0, stage := .completed, recipe := some r.name, lines }) := by
    rw [hreturns] at hdryEnd
    exact hdryEnd.exists_completed
  rw [hdry] at hdrySteps
  have hprints : steps.filterMap Step.echoed? = lines := (echoed_steps hdrySteps).trans hprinted
  refine ⟨_, hdry, {
    starts_nothing := (words_steps hdrySteps).trans hnothing
    prints := hprints
    rendered := render_of_bound hresolve hbind hrender
    not_rendered := fun h => absurd hbind (h r b hresolve)
    same_recipe := fun _ _ hreal => ?_
    same_lines := fun _ _ hreal => ?_
    same_failure := ?_
    attempts := ⟨attempted, extra, ?_, ?_, ?_, fun hsucceed => ?_⟩
    returns := hrealEnd.exists_result
    breaks_off := fun refusal hrefuses => ⟨rfl, hrefuses.exists_break⟩ }⟩
  · rw [hreal] at hrealEnd
    exact hrealEnd.recipe_lines.1
  · rw [hreal] at hrealEnd
    exact hrealEnd.recipe_lines.2
  · -- Both have reached their execution, so that there is no such fault.
    rintro fault hearly (h | ⟨_, _, hreal, h⟩)
    · cases h
    · rw [hreal] at hrealEnd
      cases hrealEnd with
      | completed => cases h
      | failed _ hexecution _ _ _ _ hfault =>
          rw [hfault] at h
          cases h
          rw [hearly] at hexecution
          cases hexecution
  · rw [hprints]
    exact hattempted
  · exact (words_steps hrealSteps).trans hstarted
  · exact (echoed_steps hrealSteps).trans hechoed
  · obtain ⟨hlines, hreturned⟩ := hall fun i hi hle =>
      Job.not_stopsAt_of_succeeds hwords (hquiet i) (hsucceed i hi hle)
    rw [hreturned] at hrealEnd
    exact ⟨hlines, hrealEnd.exists_completed⟩

/-- **A dry run foretells the run, but for refusals.** For a registry that was read from a text, and
whatever becomes of the processes and whichever signals arrive from their start on, the dry run of an
invocation starts nothing and prints the lines that the run goes through. -/
theorem invoke_dryRun {source : Option Path} {t : Text}
    (hload : Registry.ofText source t = .ok d.registry) (hquiet : ∀ i, s.announced i = [])
    (name : Option Text) (arguments : List Text) :
    ∃ dry, { d with dryRun := true }.invoke name arguments s = .ok dry ∧
      d.Foretells s name arguments dry ({ d with dryRun := false }.invoke name arguments s) := by
  cases hresolve : d.resolve name with
  | error fault =>
      have hinvoke : ∀ dryRun, { d with dryRun := dryRun }.invoke name arguments s = _ := fun dryRun =>
        (invoke_of_unresolved (d := { d with dryRun := dryRun }) hresolve).trans
          (Preparation.fail_eq rfl name)
      rw [hinvoke false]
      refine ⟨_, hinvoke true, foretells_of_early rfl rfl fun r b hr => ?_⟩
      rw [hresolve] at hr
      cases hr
  | ok r =>
      cases hbind : r.bind arguments with
      | error fault =>
          have hinvoke : ∀ dryRun, { d with dryRun := dryRun }.invoke name arguments s = _ :=
            fun dryRun =>
              (invoke_of_unbound (d := { d with dryRun := dryRun }) hresolve hbind).trans
                (Preparation.fail_eq rfl name)
          rw [hinvoke false]
          refine ⟨_, hinvoke true, foretells_of_early rfl rfl fun r' b hr hb => ?_⟩
          rw [hresolve] at hr
          cases hr
          rw [hbind] at hb
          cases hb
      | ok b =>
          obtain ⟨⟨values, hvalues⟩, lines, hrender⟩ :=
            (Registry.checked_of_ofText hload (mem_of_resolve hresolve)).exists_render hbind
          obtain ⟨values, hvalues⟩ := exists_positional d hvalues
          exact exists_foretells_of_bound hquiet hresolve hbind hrender hvalues

/-- The theorem at a recipe of three lines, the second of which fails. Its run prints nothing. -/
theorem invoke_dryRun_failing :
    let t := "r x:\n  a {{x}}\n  b\n  c\n".toList
    let r : Recipe := {
      name := ['r']
      parameters := [⟨['x'], none, false⟩]
      body := ["a {{x}}".toList, ['b'], ['c']]
      line := 1 }
    let d : Dispatcher := { registry := { recipes := [r] }, echo := false }
    let s : Schedule := { children := [{}, { fate := .ends 3 [] [] }] }
    (Registry.ofText none t = .ok d.registry ∧ (∀ i, s.announced i = []) ∧
      (invoke { d with dryRun := true } none [['1']] s).steps.filterMap Step.echoed? =
        ["a 1".toList, ['b'], ['c']] ∧
      (invoke { d with dryRun := false } none [['1']] s).steps.filterMap Step.words? =
        [["sh".toList, "-cu".toList, "a 1".toList], ["sh".toList, "-cu".toList, ['b']]]) ∧
    ∃ dry, { d with dryRun := true }.invoke none [['1']] s = .ok dry ∧
      d.Foretells s none [['1']] dry ({ d with dryRun := false }.invoke none [['1']] s) := by
  intro t r d s
  have hload : Registry.ofText none t = .ok d.registry := by decide +kernel
  have hquiet : ∀ i, s.announced i = [] := fun _ => rfl
  have hprinted : (invoke { d with dryRun := true } none [['1']] s).steps.filterMap Step.echoed? =
      ["a 1".toList, ['b'], ['c']] := by decide +kernel
  have hstarted : (invoke { d with dryRun := false } none [['1']] s).steps.filterMap Step.words? =
      [["sh".toList, "-cu".toList, "a 1".toList], ["sh".toList, "-cu".toList, ['b']]] := by
    decide +kernel
  exact ⟨⟨hload, hquiet, hprinted, hstarted⟩, invoke_dryRun hload hquiet none [['1']]⟩

/-- An argument with a null character: the dry run is completed and has printed the line, but no process
can be given the line, so that the run has no result. -/
theorem invoke_dryRun_refused :
    let t := "a x:\n  echo {{x}}\n".toList
    let r : Recipe := {
      name := ['a']
      parameters := [⟨['x'], none, false⟩]
      body := ["echo {{x}}".toList]
      line := 1 }
    let d : Dispatcher := { registry := { recipes := [r] } }
    let s : Schedule := { children := [{ fate := .refused .nullCharacter }] }
    let line := "echo b\x00c".toList
    let arguments := ["b\x00c".toList]
    Registry.ofText none t = .ok d.registry ∧ (∀ i, s.announced i = []) ∧
      refusal? ["sh".toList, "-cu".toList, line] [] = some .nullCharacter ∧
      (invoke { d with dryRun := true } none arguments s).map (·.2) =
        .ok { status := 0, stage := .completed, recipe := some ['a'], lines := [line] } ∧
      ¬ ∃ real, { d with dryRun := false }.invoke none arguments s = .ok real ∧
        real.2.recipe = some ['a'] ∧ real.2.lines = [line] := by
  intro t r d s line arguments
  have hload : Registry.ofText none t = .ok d.registry := by decide +kernel
  have hdry : (invoke { d with dryRun := true } none arguments s).map (·.2) =
      .ok { status := 0, stage := .completed, recipe := some ['a'], lines := [line] } := by
    decide +kernel
  have hreal : (invoke { d with dryRun := false } none arguments s).toOption = none := by
    decide +kernel
  refine ⟨hload, fun _ => rfl, by decide, hdry, ?_⟩
  rintro ⟨real, hresult, _⟩
  rw [hresult] at hreal
  cases hreal

end Dispatcher

end Runbook
