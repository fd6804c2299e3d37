import Runbook.Proofs.Invocation.DryRun
import Runbook.Proofs.Invocation.Outcome
import Runbook.Shell.Host

set_option autoImplicit false

/-! # Invocations on a host

An invocation on a host is one with a schedule that the host gives. The host runs processes one after
another, each on what the one before has left, up to the first that does not succeed. Which processes
these are is planned before any of them has run; this file shows that those which the invocation then
starts are those which the host has run, no more and no fewer.

A host refuses a process exactly if its words or its variables hold what no process can be given. So an
invocation whose planned words can be given to processes ends with a result.
-/

namespace Runbook

namespace Host

variable {h last : Host} {words : List Text} {ws : List (List Text)} {children : List Child}
  {child : Child} {i : Nat}

/-! ## One process -/

/-- What becomes of a process on a host. -/
theorem spawn_cases (h : Host) (words : List Text) :
    (∃ refusal, refusal? words h.environment = some refusal ∧
      h.spawn words = (h, { fate := .refused refusal })) ∨
    (refusal? words h.environment = none ∧
      ((∃ reason, h.spawn words = (h, { fate := .notStarted reason })) ∨
        ∃ machine status, h.spawn words = ({ h with machine }, { fate := .ends status [] [] }))) := by
  unfold spawn
  cases refusal? words h.environment with
  | some refusal => exact Or.inl ⟨refusal, rfl, rfl⟩
  | none =>
      refine Or.inr ⟨rfl, ?_⟩
      dsimp only
      split
      · exact Or.inl ⟨_, rfl⟩
      · split
        · exact Or.inl ⟨_, rfl⟩
        · exact Or.inr ⟨_, _, rfl⟩

/-- No signal arrives at a process on a host. -/
theorem quiet_spawn (h : Host) (words : List Text) :
    (h.spawn words).2.early = [] ∧ (h.spawn words).2.fate.signals = [] := by
  rcases h.spawn_cases words with
    ⟨_, _, heq⟩ | ⟨_, ⟨_, heq⟩ | ⟨_, _, heq⟩⟩ <;> rw [heq] <;> exact ⟨rfl, rfl⟩

theorem environment_spawn (h : Host) (words : List Text) :
    (h.spawn words).1.environment = h.environment := by
  rcases h.spawn_cases words with
    ⟨_, _, heq⟩ | ⟨_, ⟨_, heq⟩ | ⟨_, _, heq⟩⟩ <;> rw [heq]

/-- **A host refuses a process exactly if nothing can be given its words and variables.** -/
theorem fate_spawn_eq_refused_iff {refusal : Refusal} :
    (h.spawn words).2.fate = .refused refusal ↔ refusal? words h.environment = some refusal := by
  rcases h.spawn_cases words with ⟨other, hother, heq⟩ | ⟨hnone, ⟨_, heq⟩ | ⟨_, _, heq⟩⟩
  · rw [heq, hother]
    simp
  · rw [heq, hnone]
    simp
  · rw [heq, hnone]
    simp

/-! ## Processes one after another -/

/-- Processes run on a host, each on what the one before has left: the words, what becomes of each, and
the host afterwards. -/
inductive Runs : Host → List (List Text) → List Child → Host → Prop
  | nil {h : Host} : Runs h [] [] h
  | cons {h last : Host} {words : List Text} {ws : List (List Text)} {children : List Child}
      (hrest : Runs (h.spawn words).1 ws children last) :
      Runs h (words :: ws) ((h.spawn words).2 :: children) last

/-- Each process has run on some host with the same variables. -/
theorem Runs.exists_spawn (hruns : Runs h ws children last) (hchild : children[i]? = some child) :
    ∃ (host : Host) (words : List Text), ws[i]? = some words ∧ host.environment = h.environment ∧
      child = (host.spawn words).2 := by
  induction hruns generalizing i with
  | nil => cases hchild
  | @cons h last words ws children hrest ih =>
      cases i with
      | zero =>
          cases hchild
          exact ⟨h, words, rfl, rfl, rfl⟩
      | succ i =>
          obtain ⟨host, others, hwords, henvironment, heq⟩ := ih hchild
          exact ⟨host, others, hwords, henvironment.trans (h.environment_spawn words), heq⟩

/-- What a host has run of the processes that were planned: the first ones, of which all but the last
have succeeded, and the last has not if there are more. -/
structure RunsFirst (h : Host) (ws : List (List Text)) (children : List Child) (last : Host) :
    Prop where
  runs : Runs h (ws.take children.length) children last
  le : children.length ≤ ws.length
  succeeds : ∀ i, i + 1 < children.length → children[i]? = some {}
  stops : children.length < ws.length → ∃ child, children.getLast? = some child ∧
    child.fate ≠ .ends 0 [] []

/-- A process on a host that succeeds is one that nothing is said about in a schedule. -/
theorem spawn_of_succeeds (hfate : (h.spawn words).2.fate = .ends 0 [] []) :
    (h.spawn words).2 = {} := by
  obtain ⟨hearly, _⟩ := h.quiet_spawn words
  cases hchild : (h.spawn words).2 with
  | mk early fate =>
      rw [hchild] at hearly hfate
      rw [show early = [] from hearly, show fate = .ends 0 [] [] from hfate]

theorem spawnAll_cons (h : Host) (words : List Text) (ws : List (List Text)) :
    h.spawnAll (words :: ws) = if (h.spawn words).2.fate = .ends 0 [] [] then
      (((h.spawn words).1.spawnAll ws).1, (h.spawn words).2 :: ((h.spawn words).1.spawnAll ws).2)
    else ((h.spawn words).1, [(h.spawn words).2]) := by
  rw [spawnAll]
  simp only [beq_iff_eq]

theorem runsFirst_spawnAll (h : Host) (ws : List (List Text)) :
    RunsFirst h ws (h.spawnAll ws).2 (h.spawnAll ws).1 := by
  induction ws generalizing h with
  | nil => exact ⟨.nil, Nat.le_refl 0, (fun i hi => nomatch hi), (fun hlt => nomatch hlt)⟩
  | cons words ws ih =>
      obtain ⟨hruns, hle, hsucceeds, hstops⟩ := ih (h.spawn words).1
      rw [spawnAll_cons]
      by_cases hfate : (h.spawn words).2.fate = .ends 0 [] []
      · -- the process succeeds, so that the host goes on with the rest
        rw [if_pos hfate]
        refine ⟨.cons hruns, Nat.succ_le_succ hle, fun i hi => ?_, fun hlt => ?_⟩
        · cases i with
          | zero => exact congrArg some (spawn_of_succeeds hfate)
          | succ i => exact hsucceeds i (Nat.lt_of_succ_lt_succ hi)
        · obtain ⟨child, hlast, hne⟩ := hstops (Nat.lt_of_succ_lt_succ hlt)
          refine ⟨child, ?_, hne⟩
          rw [List.getLast?_cons, hlast]
          rfl
      · rw [if_neg hfate]
        refine ⟨.cons .nil, by simp, fun i hi => ?_, fun _ => ⟨_, rfl, hfate⟩⟩
        rw [List.length_singleton] at hi
        omega

end Host

/-! ## Turns on a host -/

namespace Job

variable {job : Job} {h last : Host} {ws : List (List Text)} {children : List Child} {k : Nat}

/-- A process that no signal arrives at and that does not succeed is a reason to stop. -/
theorem stopsAt_of_fails {s : Schedule} {i : Nat} (hquiet : (s.child i).fate.signals = [])
    (hne : (s.child i).fate ≠ .ends 0 [] []) : job.StopsAt s i := by
  cases hfate : (s.child i).fate with
  | notStarted reason => exact .notStarted hfate
  | refused refusal => exact .refused hfate
  | ends status signals late =>
      rw [hfate] at hquiet hne
      obtain ⟨rfl, rfl⟩ := List.append_eq_nil_iff.mp hquiet
      refine .failed hfate fun hzero => hne ?_
      rw [hzero]

/-- **As many turns as there were processes.** -/
theorem lastTurn_eq_length (hwords : job.HasWords) (hfirst : Host.RunsFirst h ws children last)
    (hlast : job.LastTurn { children } ws.length k) : k = children.length := by
  have hgoes : ∀ i, 1 ≤ i → i < children.length → ¬ job.StopsAt { children } i := by
    intro i hi hlt
    refine not_stopsAt_of_succeeds hwords rfl ?_
    show children.getD (i - 1) {} = _
    rw [List.getD_eq_getElem?_getD, hfirst.succeeds (i - 1) (by omega)]
    rfl
  have hstops : children.length < ws.length →
      1 ≤ children.length ∧ job.StopsAt { children } children.length := by
    intro hlt
    obtain ⟨child, hchild, hne⟩ := hfirst.stops hlt
    have hpos : children ≠ [] := by
      rintro rfl
      cases hchild
    rw [List.getLast?_eq_getElem?] at hchild
    have heq : Schedule.child { children } children.length = child := by
      unfold Schedule.child
      rw [List.getD_eq_getElem?_getD, hchild]
      rfl
    obtain ⟨host, words, _, _, hspawn⟩ := hfirst.runs.exists_spawn hchild
    refine ⟨List.length_pos_iff.mpr hpos, stopsAt_of_fails ?_ ?_⟩
    · rw [heq, hspawn]
      exact (host.quiet_spawn words).2
    · rw [heq]
      exact hne
  -- The first turn that there is a reason to stop at is that of the last process, if there is one.
  rcases Nat.lt_trichotomy k children.length with hlt | heq | hgt
  · obtain ⟨hone, hstop⟩ := hlast.stops (Nat.lt_of_lt_of_le hlt hfirst.le)
    exact absurd hstop (hgoes k hone hlt)
  · exact heq
  · obtain ⟨hone, hstop⟩ := hstops (Nat.lt_of_lt_of_le hgt hlast.le)
    exact absurd hstop (hlast.goes_on _ hone hgt)

/-- When all processes succeed, every line has a turn. -/
theorem lastTurn_eq_all (hwords : job.HasWords) {n : Nat} (hlast : job.LastTurn {} n k) : k = n := by
  rcases Nat.lt_or_ge k n with hlt | hge
  · obtain ⟨hone, hstop⟩ := hlast.stops hlt
    exact absurd hstop (not_stopsAt_of_succeeds hwords rfl rfl)
  · exact Nat.le_antisymm hlast.le hge

end Job

/-! ## Invocations -/

theorem startedBy_eq (steps : List Step) : startedBy steps = steps.filterMap Step.words? := by
  unfold startedBy
  refine List.filterMap_congr fun step _ => ?_
  cases step with
  | moved => rfl
  | failed => rfl
  | did event => cases event <;> rfl

namespace Dispatcher

variable {d : Dispatcher} {source : Option Path} {t : Text}

/-- What becomes of the processes of an invocation on a host. -/
def scheduleOn (d : Dispatcher) (h : Host) (name : Option Text) (arguments : List Text) : Schedule where
  children := ((d.hostOf h).spawnAll (d.planned name arguments)).2

theorem starts_of_planned {name : Option Text} {arguments : List Text}
    (hne : d.planned name arguments ≠ []) : Starts (d.invoke name arguments {}).steps := by
  obtain ⟨words, hwords⟩ := List.exists_mem_of_ne_nil _ hne
  unfold planned at hwords
  rw [startedBy_eq] at hwords
  obtain ⟨step, hstep, hstarted⟩ := List.mem_filterMap.mp hwords
  cases step with
  | moved => cases hstarted
  | failed => cases hstarted
  | did event =>
      refine ⟨event, hstep, ?_⟩
      cases event with
      | started => rfl
      | _ => cases hstarted

/-- The processes that an invocation starts on a host are those planned that the host has run. -/
theorem startedBy_scheduleOn (hload : Registry.ofText source t = .ok d.registry) (h : Host)
    (name : Option Text) (arguments : List Text) :
    startedBy (d.invoke name arguments (d.scheduleOn h name arguments)).steps =
      (d.planned name arguments).take (d.scheduleOn h name arguments).children.length := by
  by_cases hne : d.planned name arguments = []
  · -- nothing is planned, so that nothing is run, and nothing started
    have hempty : d.scheduleOn h name arguments = {} := by
      unfold scheduleOn
      rw [hne]
      rfl
    rw [hempty]
    exact hne.trans List.take_zero.symm
  · obtain ⟨hdry, r, b, hnamed, hbind, _⟩ :=
      (invoke_tells hload {} name arguments).starts_iff.mp (starts_of_planned hne)
    have hresolve : d.resolve name = .ok r := resolve_eq_ok_iff.mpr hnamed
    obtain ⟨lines, values, hrender, _, hvalues⟩ := exists_rendered hload hresolve hbind
    have hwords : (d.job r lines values).HasWords := Or.inr (Or.inr (shell_ne_nil d))
    obtain ⟨extra, hargv⟩ := Job.exists_argv_eq hwords
    -- what is started with any schedule, up to the last turn
    have hstarted : ∀ s : Schedule, ∃ k, (d.job r lines values).LastTurn s lines.length k ∧
        startedBy (d.invoke name arguments s).steps =
          (lines.map fun line => d.shell ++ line :: extra).take k := by
      intro s
      obtain ⟨hsteps, _⟩ := invoke_executes (s := s) hresolve hbind hrender hvalues
      obtain ⟨k, hlast, hevents⟩ :=
        Job.exists_lastTurn (show (d.job r lines values).dryRun = false from hdry) s
      refine ⟨k, hlast, ?_⟩
      rw [startedBy_eq, words_steps hsteps, hevents, Job.words_turns, ← List.map_take,
        ← List.filterMap_eq_map]
      exact List.filterMap_congr fun line _ => hargv line
    obtain ⟨n, hall, hplanned⟩ := hstarted {}
    rw [Job.lastTurn_eq_all hwords hall, List.take_of_length_le (by simp)] at hplanned
    obtain ⟨k, hlast, hsteps⟩ := hstarted (d.scheduleOn h name arguments)
    have hfirst := (d.hostOf h).runsFirst_spawnAll (d.planned name arguments)
    have hlength : (d.planned name arguments).length = lines.length := by
      rw [planned, hplanned, List.length_map]
    rw [← hlength] at hlast
    have hk : k = (d.scheduleOn h name arguments).children.length :=
      Job.lastTurn_eq_length hwords hfirst hlast
    rw [hsteps, planned, hplanned, hk]

/-- **An invocation on a host is an invocation with the schedule that the host gives.** The processes
that it starts, in order, are those that the host runs, each on what the one before has left, and what
the schedule says of each is what has become of it there. -/
theorem invokeOn_runs (hload : Registry.ofText source t = .ok d.registry) (h : Host)
    (name : Option Text) (arguments : List Text) :
    ∃ s : Schedule, (d.invokeOn h name arguments).2 = d.invoke name arguments s ∧
      Host.Runs (d.hostOf h) (startedBy (d.invokeOn h name arguments).2.steps) s.children
        (d.invokeOn h name arguments).1 := by
  refine ⟨d.scheduleOn h name arguments, rfl, ?_⟩
  have hstarted := d.startedBy_scheduleOn hload h name arguments
  have hruns := ((d.hostOf h).runsFirst_spawnAll (d.planned name arguments)).runs
  rw [show (d.invokeOn h name arguments).2 =
    d.invoke name arguments (d.scheduleOn h name arguments) from rfl, hstarted]
  exact hruns

/-- **An invocation on a host has a result** if all words that are planned, and the variables, can be
given to processes. -/
theorem exists_result_of_invokeOn (hload : Registry.ofText source t = .ok d.registry) (h : Host)
    (name : Option Text) (arguments : List Text)
    (hgiven : ∀ words ∈ d.planned name arguments,
      refusal? words (d.hostOf h).environment = none) :
    ∃ steps result, (d.invokeOn h name arguments).2 = .ok (steps, result) := by
  have hno : ¬ ∃ refusal, d.Refuses (d.scheduleOn h name arguments) name arguments refusal := by
    rintro ⟨refusal, hrefuses⟩
    obtain ⟨k, hfate⟩ := hrefuses.exists_child
    have hruns := ((d.hostOf h).runsFirst_spawnAll (d.planned name arguments)).runs
    unfold Schedule.child at hfate
    rw [List.getD_eq_getElem?_getD] at hfate
    cases hchild : (d.scheduleOn h name arguments).children[k - 1]? with
    | none =>
        rw [hchild] at hfate
        cases hfate
    | some child =>
        rw [hchild] at hfate
        obtain ⟨host, words, hwords, henvironment, rfl⟩ := hruns.exists_spawn hchild
        have hrefused := Host.fate_spawn_eq_refused_iff.mp hfate
        have hmem : words ∈ d.planned name arguments :=
          List.mem_of_mem_take (List.mem_of_getElem? hwords)
        rw [henvironment, hgiven words hmem] at hrefused
        cases hrefused
  obtain ⟨steps, result, hinvoke, _⟩ := exists_consistent hload hno
  exact ⟨steps, result, hinvoke⟩

end Dispatcher

end Runbook
