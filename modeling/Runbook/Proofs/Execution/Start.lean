import Runbook.Proofs.Execution.Trace

set_option autoImplicit false

/-! # What has been received when a process is started

A turn looks for signals at its start and when its process has ended, but not between the
announcement of its line and the start of the process. What has been received when the process of a
line is started is therefore what arrived while this very line was announced, and nothing else: the
turns before it have received nothing, not even after the start of their process. If anything has
been received by then, the process is the last one that is started.
-/

namespace Runbook

/-! ## Signals before starts -/

/-- The signal that is received. -/
def Event.signal? : Event → Option Signal
  | received signal => some signal
  | _ => none

/-- Once a signal has been received, there is no attempt to start a process. -/
def StartsNothingAfterSignals (events : List Event) : Prop :=
  events.Pairwise fun e later => e.signal? ≠ none → later.isStart = false

/-- For each attempt to start a process, the signals that have been received by then, `heard` being
those that were received before all the events. -/
def heardBeforeStarts : List Signal → List Event → List (List Signal)
  | _, [] => []
  | heard, .received signal :: more => heardBeforeStarts (heard ++ [signal]) more
  | heard, .started .. :: more => heard :: heardBeforeStarts heard more
  | heard, _ :: more => heardBeforeStarts heard more

variable {heard : List Signal} {events rest : List Event}

theorem heardBeforeStarts_of_no_start (h : ∀ e ∈ events, e.isStart = false)
    (heard : List Signal) : heardBeforeStarts heard events = [] := by
  induction events generalizing heard with
  | nil => rfl
  | cons e events ih =>
      have hrest : ∀ e' ∈ events, e'.isStart = false := fun e' he' => h e' (by simp [he'])
      cases e with
      | received signal => exact ih hrest (heard ++ [signal])
      | started => cases h _ List.mem_cons_self
      | announced => exact ih hrest heard
      | echoed => exact ih hrest heard
      | relayed => exact ih hrest heard
      | waited => exact ih hrest heard

/-- Nothing is received before any start exactly if nothing is started once something has been
received, be it before the events or in them. -/
theorem forall_heardBeforeStarts_iff :
    (∀ signals ∈ heardBeforeStarts heard events, signals = []) ↔
      (heard ≠ [] → ∀ e ∈ events, e.isStart = false) ∧ StartsNothingAfterSignals events := by
  unfold StartsNothingAfterSignals
  induction events generalizing heard with
  | nil => simp [heardBeforeStarts]
  | cons e events ih =>
      rw [List.pairwise_cons]
      cases e with
      | received signal =>
          -- From here on something has been received, so that no start may follow.
          have hheard : heard ++ [signal] ≠ [] := by simp
          rw [heardBeforeStarts, ih]
          constructor
          · rintro ⟨hnone, hrest⟩
            have hnone := hnone hheard
            exact ⟨fun _ => List.forall_mem_cons.mpr ⟨rfl, hnone⟩, fun later h _ => hnone later h,
              hrest⟩
          · rintro ⟨_, hnone, hrest⟩
            exact ⟨fun _ later h => hnone later h (Option.some_ne_none signal), hrest⟩
      | started words environment directory =>
          rw [heardBeforeStarts, List.forall_mem_cons, ih]
          constructor
          · rintro ⟨rfl, _, hrest⟩
            exact ⟨fun h => absurd rfl h, fun _ _ h => absurd rfl h, hrest⟩
          · rintro ⟨hnone, _, hrest⟩
            have hheard : heard = [] := by
              by_contra hne
              cases hnone hne _ List.mem_cons_self
            exact ⟨hheard, fun hne => absurd hheard hne, hrest⟩
      | announced => simp [heardBeforeStarts, ih, Event.isStart, Event.signal?]
      | echoed => simp [heardBeforeStarts, ih, Event.isStart, Event.signal?]
      | relayed => simp [heardBeforeStarts, ih, Event.isStart, Event.signal?]
      | waited => simp [heardBeforeStarts, ih, Event.isStart, Event.signal?]

theorem startsNothingAfterSignals_iff :
    StartsNothingAfterSignals events ↔ ∀ signals ∈ heardBeforeStarts [] events, signals = [] := by
  rw [forall_heardBeforeStarts_iff]
  simp

/-- Signals that arrive have been received before what follows. -/
theorem heardBeforeStarts_arrivals (running : Bool) (signals : List Signal) :
    heardBeforeStarts heard (arrivals running signals ++ rest) =
      heardBeforeStarts (heard ++ signals) rest := by
  induction signals generalizing heard with
  | nil => simp [arrivals]
  | cons signal signals ih =>
      have hstep : heardBeforeStarts heard (arrivals running (signal :: signals) ++ rest) =
          heardBeforeStarts (heard ++ [signal]) (arrivals running signals ++ rest) := by
        unfold arrivals
        rw [List.flatMap_cons]
        split
        · rfl
        · rfl
      rw [hstep, ih, List.append_assoc, List.singleton_append]

namespace Job

variable {job : Job} {s : Schedule} {i n : Nat} {text : Text}

/-! ## One turn -/

theorem heardBeforeStarts_opening :
    heardBeforeStarts heard (job.opening (job.heard s i) i text ++ rest) =
      heardBeforeStarts (heard ++ job.heard s i) rest := by
  have hechoed : ∀ heard, heardBeforeStarts heard
      ((if job.echo || job.dryRun then [Event.echoed text] else []) ++ rest) =
        heardBeforeStarts heard rest := by
    intro heard
    split
    · rfl
    · rfl
  unfold opening Job.heard
  rw [List.append_assoc]
  cases job.announce with
  | true =>
      show heardBeforeStarts heard (arrivals false (s.announced i) ++ _) = _
      rw [heardBeforeStarts_arrivals, hechoed]
      rfl
  | false =>
      show heardBeforeStarts heard _ = heardBeforeStarts (heard ++ []) rest
      rw [List.append_nil]
      exact hechoed heard

/-- An attempt starts a process first, and what it receives it receives after that. -/
theorem heardBeforeStarts_attempt (words : List Text) (child : Child) :
    heardBeforeStarts heard (job.attempt words child ++ rest) =
      heard :: heardBeforeStarts (heard ++ child.early ++ child.fate.signals) rest := by
  unfold attempt Fate.signals
  rw [List.append_assoc, List.cons_append, heardBeforeStarts, heardBeforeStarts_arrivals]
  cases child.fate with
  | notStarted reason =>
      rw [List.append_nil]
      rfl
  | refused refusal =>
      rw [List.append_nil]
      rfl
  | ends status signals late =>
      dsimp only
      rw [List.append_assoc, List.append_assoc, heardBeforeStarts_arrivals,
        heardBeforeStarts_arrivals, List.append_assoc _ signals late]
      rfl

/-- **One start in a turn**, before which the turn has received what arrived while its line was
announced. -/
theorem heardBeforeStarts_turn (hwords : job.HasWords) :
    heardBeforeStarts heard (job.turn s i text ++ rest) =
      (heard ++ job.heard s i) :: heardBeforeStarts (heard ++ job.received s i) rest := by
  unfold turn received
  rw [List.append_assoc, heardBeforeStarts_opening]
  cases hargv : argv text job.shell job.recipe job.positional with
  | none => exact absurd hwords (argv_eq_none_iff.mp hargv)
  | some words =>
      dsimp only
      rw [heardBeforeStarts_attempt]
      simp only [List.append_assoc]

/-! ## All turns -/

/-- Turns of which only the last may receive anything start their processes after what arrived while
their own line was announced. -/
theorem heardBeforeStarts_turns (hwords : job.HasWords) {ls : List Text}
    (hquiet : ∀ i, n ≤ i → i + 1 < n + ls.length → job.received s i = []) :
    heardBeforeStarts [] (job.turns s n ls) = (List.range' n ls.length).map (job.heard s) := by
  induction ls generalizing n with
  | nil => rfl
  | cons text more ih =>
      rw [turns_cons, heardBeforeStarts_turn hwords, List.length_cons, List.range'_succ,
        List.map_cons, List.nil_append, List.nil_append]
      congr 1
      cases more with
      | nil => rfl
      | cons next more =>
          have hnothing : job.received s n = [] :=
            hquiet n (Nat.le_refl n) (by simp only [List.length_cons]; omega)
          rw [hnothing]
          exact ih fun i hi hlt =>
            hquiet i (by omega) (by simp only [List.length_cons] at hlt ⊢; omega)

/-! ## Runs that start nothing -/

theorem isStart_of_mem_opening {announced : List Signal} :
    ∀ e ∈ job.opening announced i text, e.isStart = false := by
  intro e he
  rcases eq_of_mem_opening he with rfl | ⟨signal, _, rfl⟩ | rfl
  · rfl
  · rfl
  · rfl

/-- A dry run starts nothing. -/
theorem isStart_of_mem_dryRun (hdry : job.dryRun = true) {announced : Nat → List Signal}
    {received : Option Signal} {children : List Child} {ls : List Text} :
    ∀ e ∈ (job.runFrom announced n received children ls).1, e.isStart = false := by
  induction ls generalizing n received with
  | nil =>
      intro e he
      rw [runFrom] at he
      cases he
  | cons text more ih =>
      intro e he
      cases received with
      | some signal => cases he
      | none =>
          rw [runFrom, hdry] at he
          rcases List.mem_append.mp he with he | he
          · exact isStart_of_mem_opening e he
          · exact ih e he

/-- Without words nothing is started. -/
theorem isStart_of_mem_turns (hwords : ¬ job.HasWords) {ls : List Text} :
    ∀ e ∈ job.turns s n ls, e.isStart = false := by
  intro e he
  obtain ⟨⟨text, i⟩, _, hmem⟩ := List.mem_flatMap.mp he
  dsimp only at hmem
  unfold turn at hmem
  rw [argv_eq_none_iff.mpr hwords, List.append_nil] at hmem
  exact isStart_of_mem_opening e hmem

/-! ## Executions -/

theorem heard_eq_nil_of_received (h : job.received s i = []) : job.heard s i = [] := by
  unfold received at h
  exact (List.append_eq_nil_iff.mp (List.append_eq_nil_iff.mp h).1).1

/-- The processes that an execution starts: before each one what arrived while its own line was
announced has been received, and before the last one no earlier turn has received anything. -/
theorem exists_starts (job : Job) (s : Schedule) :
    ∃ k, k ≤ job.lines.length ∧
      heardBeforeStarts [] (job.execute s).1 = (List.range' 1 k).map (job.heard s) ∧
      ∀ i, 1 ≤ i → i < k → job.received s i = [] := by
  have hnone : (∀ e ∈ (job.execute s).1, e.isStart = false) → ∃ k, k ≤ job.lines.length ∧
      heardBeforeStarts [] (job.execute s).1 = (List.range' 1 k).map (job.heard s) ∧
      ∀ i, 1 ≤ i → i < k → job.received s i = [] := fun h =>
    ⟨0, Nat.zero_le _, heardBeforeStarts_of_no_start h [],
      fun i _ hlt => absurd hlt (Nat.not_lt_zero i)⟩
  cases hdry : job.dryRun with
  | true => exact hnone (isStart_of_mem_dryRun hdry)
  | false =>
      obtain ⟨k, hlast, hevents⟩ := exists_lastTurn hdry s
      by_cases hwords : job.HasWords
      · have hlength : (job.lines.take k).length = k := List.length_take_of_le hlast.le
        have hquiet : ∀ i, 1 ≤ i → i < k → job.received s i = [] := by
          intro i hi hlt
          by_contra hne
          exact hlast.goes_on i hi hlt (StopsAt.signalled hne)
        refine ⟨k, hlast.le, ?_, hquiet⟩
        rw [hevents, heardBeforeStarts_turns hwords fun i hi hlt => hquiet i hi (by omega), hlength]
      · refine hnone ?_
        rw [hevents]
        exact isStart_of_mem_turns hwords

/-- A turn with words for its process starts it. -/
theorem exists_isStart_turn (hwords : job.HasWords) :
    ∃ e ∈ job.turn s i text, e.isStart = true := by
  unfold turn
  cases hargv : argv text job.shell job.recipe job.positional with
  | none => exact absurd hwords (argv_eq_none_iff.mp hargv)
  | some words =>
      refine ⟨.started words job.environment job.directory, ?_, rfl⟩
      exact List.mem_append_right _ List.mem_cons_self

/-- Whether an execution starts any process is known before: it does unless it is a dry run, has no
words for its processes, or has no lines. -/
theorem exists_isStart_iff (job : Job) (s : Schedule) :
    (∃ e ∈ (job.execute s).1, e.isStart = true) ↔
      job.dryRun = false ∧ job.HasWords ∧ job.lines ≠ [] := by
  constructor
  · rintro ⟨e, he, hstart⟩
    cases hdry : job.dryRun with
    | true => rw [isStart_of_mem_dryRun hdry e he] at hstart; cases hstart
    | false =>
        obtain ⟨k, _, hevents⟩ := exists_lastTurn hdry s
        rw [hevents] at he
        refine ⟨rfl, ?_, ?_⟩
        · by_contra hwords
          rw [isStart_of_mem_turns hwords e he] at hstart
          cases hstart
        · intro hnil
          rw [hnil] at he
          simp [turns] at he
  · rintro ⟨hdry, hwords, hlines⟩
    obtain ⟨text, more, hcons⟩ := List.exists_cons_of_ne_nil hlines
    obtain ⟨e, he, hstart⟩ : ∃ e ∈ job.turn s 1 text, e.isStart = true := exists_isStart_turn hwords
    refine ⟨e, ?_, hstart⟩
    rw [execute_eq_runAt, hcons]
    -- the first turn is there in any case, whether it ends the execution or not
    cases hending : job.ending s 1 text with
    | some stop => rw [runAt_of_ending hdry hending]; exact he
    | none =>
        rw [runAt_of_going hdry (Nat.le_refl 1) hending]
        exact List.mem_append_left _ he

/-- **What has been received when a process is started** is what arrived while its own line was
announced. Before the last process that is started, no earlier turn has received anything. So a
process is started after a signal exactly if one arrives while the line of the last process is
announced. -/
theorem execute_starts (job : Job) (s : Schedule) :
    ∃ k, k ≤ job.lines.length ∧
      heardBeforeStarts [] (job.execute s).1 = (List.range' 1 k).map (job.heard s) ∧
      (∀ i, 1 ≤ i → i < k → job.received s i = []) ∧
      (StartsNothingAfterSignals (job.execute s).1 ↔ k = 0 ∨ job.heard s k = []) := by
  obtain ⟨k, hk, hheard, hquiet⟩ := job.exists_starts s
  refine ⟨k, hk, hheard, hquiet, ?_⟩
  rw [startsNothingAfterSignals_iff, hheard, List.forall_mem_map]
  constructor
  · intro h
    by_cases hzero : k = 0
    · exact Or.inl hzero
    · exact Or.inr (h k (by rw [List.mem_range'_1]; omega))
  · intro h i hi
    rw [List.mem_range'_1] at hi
    by_cases hlt : i < k
    · exact heard_eq_nil_of_received (hquiet i hi.1 hlt)
    · rw [show i = k by omega]
      exact h.resolve_left (by omega)

/-- A request to terminate that arrives while a line is announced does not keep the process of this
line from being started. -/
theorem execute_starts_announced :
    let job : Job := { lines := [['a']], shell := [['s', 'h']] }
    let s : Schedule := { announced := fun _ => [.terminate] }
    (job.execute s).1 = [.announced 1 ['a'], .received .terminate, .echoed ['a'],
      .started [['s', 'h'], ['a']] none none, .waited 0] ∧
    ¬ StartsNothingAfterSignals (job.execute s).1 := by
  intro job s
  refine ⟨rfl, ?_⟩
  unfold StartsNothingAfterSignals
  decide

end Job

end Runbook
