import Runbook.Proofs.Execution.Turn

set_option autoImplicit false

/-! # The trace of an execution

What happens while lines are executed, from the first line to the last turn. Signals apart, a turn
announces its line, prints it, tries to start one process and waits for it; a turn begins when the
one before it has ended, and after a turn that is the last nothing happens any more.
-/

namespace Runbook

/-! ## One process at a time -/

namespace Event

/-- Whether an event is a signal, or a signal passed on. -/
def isSignal : Event → Bool
  | received _ => true
  | relayed _ => true
  | _ => false

/-- Whether an event is an attempt to start a process. -/
def isStart : Event → Bool
  | started .. => true
  | _ => false

/-- Whether a process is to be waited for after an event, `pending` saying whether one is before
it. No process is started while one is to be waited for. -/
def follow (pending : Bool) : Event → Option Bool
  | started .. => if pending then none else some true
  | waited _ => some false
  | _ => some pending

end Event

/-- Between any two attempts to start a process, a process has been waited for. -/
def OneAtATime (events : List Event) : Prop :=
  ∀ before between after first second, events = before ++ first :: (between ++ second :: after) →
    first.isStart = true → second.isStart = true → ∃ status, Event.waited status ∈ between

theorem follow_of_isStart {e : Event} (he : e.isStart = true) {pending next : Bool}
    (h : Event.follow pending e = some next) : pending = false ∧ next = true := by
  cases e with
  | started words environment directory =>
      cases pending with
      | false =>
          cases h
          exact ⟨rfl, rfl⟩
      | true => cases h
  | announced => cases he
  | echoed => cases he
  | received => cases he
  | relayed => cases he
  | waited => cases he

/-- Without a wait, a process that is to be waited for stays so. -/
theorem foldlM_follow_of_no_wait {events : List Event} {pending : Bool}
    (hwait : ∀ status, Event.waited status ∉ events)
    (h : events.foldlM Event.follow true = some pending) : pending = true := by
  induction events with
  | nil =>
      cases h
      rfl
  | cons e events ih =>
      have hrest : ∀ status, Event.waited status ∉ events := fun status hmem =>
        hwait status (List.mem_cons_of_mem e hmem)
      rw [List.foldlM_cons] at h
      cases e with
      | started => cases h
      | waited status => exact absurd List.mem_cons_self (hwait status)
      | announced => exact ih hrest h
      | echoed => exact ih hrest h
      | received => exact ih hrest h
      | relayed => exact ih hrest h

/-- Events that can be followed to their end start one process at a time. -/
theorem oneAtATime_of_follow {events : List Event} {last : Bool}
    (h : events.foldlM Event.follow false = some last) : OneAtATime events := by
  intro before between after first second heq hfirst hsecond
  by_contra hwait
  rw [not_exists] at hwait
  rw [heq, List.foldlM_append] at h
  obtain ⟨p, _, h⟩ := Option.bind_eq_some_iff.mp h
  rw [List.foldlM_cons] at h
  obtain ⟨q, hq, h⟩ := Option.bind_eq_some_iff.mp h
  obtain ⟨_, rfl⟩ := follow_of_isStart hfirst hq
  rw [List.foldlM_append] at h
  obtain ⟨r, hr, h⟩ := Option.bind_eq_some_iff.mp h
  have hpending := foldlM_follow_of_no_wait hwait hr
  rw [List.foldlM_cons] at h
  obtain ⟨_, hstart, _⟩ := Option.bind_eq_some_iff.mp h
  obtain ⟨hfree, _⟩ := follow_of_isStart hsecond hstart
  rw [hpending] at hfree
  cases hfree

/-- Events are followed one part after the other. -/
theorem foldlM_follow_append {events later : List Event} {pending next : Bool}
    (h : events.foldlM Event.follow pending = some next) :
    (events ++ later).foldlM Event.follow pending = later.foldlM Event.follow next := by
  rw [List.foldlM_append, h]
  rfl

/-- Whether an event neither starts a process nor waits for one. -/
def Event.IsQuiet (e : Event) : Prop := ∀ pending, Event.follow pending e = some pending

theorem Event.isQuiet_of_isSignal {e : Event} (h : e.isSignal = true) : e.IsQuiet := by
  intro pending
  cases e with
  | received signal => rfl
  | relayed signal => rfl
  | announced => cases h
  | echoed => cases h
  | started => cases h
  | waited => cases h

theorem foldlM_follow_of_isQuiet {events : List Event} (h : ∀ e ∈ events, e.IsQuiet)
    (pending : Bool) : events.foldlM Event.follow pending = some pending := by
  induction events with
  | nil => rfl
  | cons e events ih =>
      rw [List.foldlM_cons, h e (by simp)]
      exact ih fun e' he' => h e' (by simp [he'])

namespace Job

variable {job : Job} {s : Schedule} {i n : Nat} {text : Text}

/-! ## One turn -/

/-- What the turn of a line is, signals apart. -/
def steps (job : Job) (s : Schedule) (i : Nat) (text : Text) : List Event :=
  .announced i text :: ((if job.echo then [.echoed text] else []) ++
    match argv text job.shell job.recipe job.positional with
    | none => []
    | some words => .started words job.environment job.directory ::
        match (s.child i).fate with
        | .notStarted _ => []
        | .refused _ => []
        | .ends status _ _ => [.waited status])

theorem isSignal_of_mem_arrivals {running : Bool} {signals : List Signal} :
    ∀ e ∈ arrivals running signals, e.isSignal = true := by
  intro e he
  obtain ⟨signal, _, rfl | rfl⟩ := exists_signal_of_mem_arrivals he
  · rfl
  · rfl

theorem filter_arrivals (running : Bool) (signals : List Signal) :
    (arrivals running signals).filter (fun e => !e.isSignal) = [] := by
  rw [List.filter_eq_nil_iff]
  intro e he
  simp [isSignal_of_mem_arrivals e he]

theorem foldlM_arrivals (running : Bool) (signals : List Signal) (pending : Bool) :
    (arrivals running signals).foldlM Event.follow pending = some pending :=
  foldlM_follow_of_isQuiet
    (fun e he => Event.isQuiet_of_isSignal (isSignal_of_mem_arrivals e he)) pending

/-- **The steps of a turn are what is left of it without signals.** -/
theorem filter_turn (hdry : job.dryRun = false) (hannounce : job.announce = true) :
    (job.turn s i text).filter (fun e => !e.isSignal) = job.steps s i text := by
  have hopening : (job.opening (job.heard s i) i text).filter (fun e => !e.isSignal) =
      .announced i text :: if job.echo then [.echoed text] else [] := by
    unfold opening
    rw [hdry, hannounce, Bool.or_false, if_pos rfl, List.filter_append, List.filter_cons,
      filter_arrivals]
    cases job.echo <;> rfl
  unfold turn steps
  rw [List.filter_append, hopening, List.cons_append]
  congr 2
  cases argv text job.shell job.recipe job.positional with
  | none => rfl
  | some words =>
      dsimp only
      unfold attempt
      rw [List.cons_append, List.filter_cons, List.filter_append, filter_arrivals]
      cases (s.child i).fate with
      | notStarted reason => rfl
      | refused refusal => rfl
      | ends status signals late =>
          dsimp only
          rw [List.filter_append, List.filter_append, filter_arrivals, filter_arrivals]
          rfl

/-- After an attempt nothing is to be waited for, if there was a process at all. -/
theorem foldlM_attempt (job : Job) (words : List Text) (child : Child) :
    ∃ pending, (job.attempt words child).foldlM Event.follow false = some pending ∧
      ∀ status signals late, child.fate = .ends status signals late → pending = false := by
  have hearly := foldlM_arrivals false child.early true
  unfold attempt
  cases child.fate with
  | notStarted reason =>
      refine ⟨true, ?_, fun status signals late h => by cases h⟩
      rw [List.append_nil]
      exact hearly
  | refused refusal =>
      refine ⟨true, ?_, fun status signals late h => by cases h⟩
      rw [List.append_nil]
      exact hearly
  | ends status signals late =>
      refine ⟨false, ?_, fun _ _ _ _ => rfl⟩
      show (arrivals false child.early ++ (arrivals true signals ++ arrivals false late ++
        [Event.waited status])).foldlM Event.follow true = some false
      rw [foldlM_follow_append hearly, List.append_assoc,
        foldlM_follow_append (foldlM_arrivals true signals true),
        foldlM_follow_append (foldlM_arrivals false late true)]
      rfl

theorem foldlM_opening (job : Job) (announced : List Signal) :
    (job.opening announced i text).foldlM Event.follow false = some false := by
  refine foldlM_follow_of_isQuiet (fun e he => ?_) false
  rcases eq_of_mem_opening he with rfl | ⟨signal, _, rfl⟩ | rfl
  · exact fun pending => rfl
  · exact fun pending => rfl
  · exact fun pending => rfl

/-- After a turn nothing is to be waited for, unless it is the last. -/
theorem foldlM_turn (job : Job) (s : Schedule) (i : Nat) (text : Text) :
    ∃ pending, (job.turn s i text).foldlM Event.follow false = some pending ∧
      (¬ job.StopsAt s i → pending = false) := by
  unfold turn
  rw [foldlM_follow_append (foldlM_opening job _)]
  cases argv text job.shell job.recipe job.positional with
  | none => exact ⟨false, rfl, fun _ => rfl⟩
  | some words =>
      obtain ⟨pending, hattempt, hends⟩ := foldlM_attempt job words (s.child i)
      refine ⟨pending, hattempt, fun hgo => ?_⟩
      obtain ⟨⟨signals, late, hfate⟩, _⟩ := succeeded_of_not_stopsAt hgo
      exact hends 0 signals late hfate

/-! ## All turns -/

/-- The last turn of an execution of `n` lines: the first that there is a reason to stop at, and
otherwise that of the last line. -/
structure LastTurn (job : Job) (s : Schedule) (n k : Nat) : Prop where
  le : k ≤ n
  goes_on : ∀ i, 1 ≤ i → i < k → ¬ job.StopsAt s i
  stops : k < n → 1 ≤ k ∧ job.StopsAt s k

/-- The turns of the first lines, one after the other, the first with number `n`. -/
def turns (job : Job) (s : Schedule) (n : Nat) (ls : List Text) : List Event :=
  (ls.zipIdx n).flatMap fun (text, i) => job.turn s i text

theorem turns_cons (job : Job) (s : Schedule) (n : Nat) (text : Text) (ls : List Text) :
    job.turns s n (text :: ls) = job.turn s n text ++ job.turns s (n + 1) ls := by
  unfold turns
  rw [List.zipIdx_cons, List.flatMap_cons]

theorem stopsAt_of_ending {stop : Stop} (h : job.ending s i text = some stop) :
    job.StopsAt s i := by
  by_contra hgo
  rw [ending_eq_none_iff.mpr hgo] at h
  cases h

/-- A run goes through all its turns, or else it ends with the first turn that there is a reason to
stop at. -/
theorem runAt_outcome (hdry : job.dryRun = false) (hn : 1 ≤ n) (ls : List Text) :
    ((∀ i, n ≤ i → i < n + ls.length → ¬ job.StopsAt s i) ∧
      job.runAt s n ls = (job.turns s n ls, none)) ∨
    ∃ k stop text, k < ls.length ∧ (∀ i, n ≤ i → i < n + k → ¬ job.StopsAt s i) ∧
      job.ending s (n + k) text = some stop ∧
      job.runAt s n ls = (job.turns s n (ls.take (k + 1)), some stop) := by
  -- Along the lines: the first one ends the run, or else the run of the rest decides.
  induction ls generalizing n with
  | nil => exact Or.inl ⟨fun i hi hlt => absurd hi (by simpa using hlt), rfl⟩
  | cons text more ih =>
      cases hending : job.ending s n text with
      | some stop =>
          refine Or.inr ⟨0, stop, text, by simp, fun i hi hlt => absurd hi (by omega), hending, ?_⟩
          rw [runAt_of_ending hdry hending]
          simp [turns]
      | none =>
          have hgo := ending_eq_none_iff.mp hending
          have hcons : ∀ k, (∀ i, n + 1 ≤ i → i < n + 1 + k → ¬ job.StopsAt s i) →
              ∀ i, n ≤ i → i < n + (k + 1) → ¬ job.StopsAt s i := by
            intro k hbefore i hi hlt
            by_cases hin : i = n
            · rw [hin]
              exact hgo
            · exact hbefore i (by omega) (by omega)
          rw [runAt_of_going hdry hn hending]
          rcases ih (Nat.le_add_right_of_le hn) with
            ⟨hall, hrun⟩ | ⟨k, stop, last, hk, hbefore, hstop, hrun⟩
          · refine Or.inl ⟨hcons more.length hall, ?_⟩
            rw [hrun, turns_cons]
          · refine Or.inr ⟨k + 1, stop, last, by simpa using hk, hcons k hbefore, ?_, ?_⟩
            · rwa [show n + (k + 1) = n + 1 + k by omega]
            · rw [hrun, List.take_succ_cons, turns_cons]

/-- An execution is its turns up to the last one. -/
theorem exists_lastTurn (hdry : job.dryRun = false) (s : Schedule) :
    ∃ k, job.LastTurn s job.lines.length k ∧
      (job.execute s).1 = job.turns s 1 (job.lines.take k) := by
  rw [execute_eq_runAt]
  rcases runAt_outcome (s := s) hdry (Nat.le_refl 1) job.lines with
    ⟨hall, hrun⟩ | ⟨k, stop, text, hk, hbefore, hstop, hrun⟩
  · refine ⟨job.lines.length, ⟨Nat.le_refl _, fun i hi hlt => hall i hi (by omega), fun hlt => ?_⟩, ?_⟩
    · exact absurd hlt (Nat.lt_irrefl _)
    · rw [hrun, List.take_length]
  · rw [Nat.add_comm 1 k] at hbefore hstop
    refine ⟨k + 1, ⟨hk, hbefore, fun _ => ⟨by omega, stopsAt_of_ending hstop⟩⟩, ?_⟩
    rw [hrun]

/-- A run starts one process at a time. -/
theorem foldlM_runAt (hdry : job.dryRun = false) (hn : 1 ≤ n) (ls : List Text) :
    ∃ pending, (job.runAt s n ls).1.foldlM Event.follow false = some pending := by
  induction ls generalizing n with
  | nil => exact ⟨false, rfl⟩
  | cons text more ih =>
      obtain ⟨pending, hturn, hgoing⟩ := foldlM_turn job s n text
      cases hending : job.ending s n text with
      | some stop =>
          rw [runAt_of_ending hdry hending]
          exact ⟨pending, hturn⟩
      | none =>
          rw [hgoing (ending_eq_none_iff.mp hending)] at hturn
          rw [runAt_of_going hdry hn hending, foldlM_follow_append hturn]
          exact ih (Nat.le_add_right_of_le hn)

/-- **The trace of an execution** is that of the turns up to the last one: signals apart, each
line is announced, printed, and run by one process, which is waited for before the next. -/
theorem execute_trace (hdry : job.dryRun = false) (hannounce : job.announce = true)
    (s : Schedule) :
    ∃ k, job.LastTurn s job.lines.length k ∧
      (job.execute s).1 = ((job.lines.take k).zipIdx 1).flatMap
        (fun (text, i) => job.turn s i text) ∧
      (job.execute s).1.filter (fun e => !e.isSignal) = ((job.lines.take k).zipIdx 1).flatMap
        (fun (text, i) => job.steps s i text) ∧
      OneAtATime (job.execute s).1 := by
  obtain ⟨k, hlast, hevents⟩ := exists_lastTurn hdry s
  obtain ⟨pending, hfollow⟩ := foldlM_runAt (s := s) hdry (Nat.le_refl 1) job.lines
  rw [← execute_eq_runAt] at hfollow
  refine ⟨k, hlast, hevents, ?_, oneAtATime_of_follow hfollow⟩
  rw [hevents, turns, List.filter_flatMap]
  simp only [filter_turn hdry hannounce]

/-- The theorem at three lines, the second of which is terminated while it runs. -/
theorem execute_trace_terminated :
    let job : Job := { lines := [['a'], ['b'], ['c']], shell := [['s', 'h']] }
    let s : Schedule := { children := [{}, { fate := .ends (-15) [.terminate] [] }] }
    (job.dryRun = false ∧ job.announce = true ∧
      (job.execute s).1 =
        [.announced 1 ['a'], .echoed ['a'], .started [['s', 'h'], ['a']] none none, .waited 0,
          .announced 2 ['b'], .echoed ['b'], .started [['s', 'h'], ['b']] none none,
          .received .terminate, .relayed .terminate, .waited (-15)]) ∧
    ∃ k, job.LastTurn s job.lines.length k ∧
      (job.execute s).1 = ((job.lines.take k).zipIdx 1).flatMap
        (fun (text, i) => job.turn s i text) ∧
      (job.execute s).1.filter (fun e => !e.isSignal) = ((job.lines.take k).zipIdx 1).flatMap
        (fun (text, i) => job.steps s i text) ∧
      OneAtATime (job.execute s).1 := by
  intro job s
  exact ⟨⟨rfl, rfl, rfl⟩, execute_trace rfl rfl s⟩

/-- A line whose process has no words is announced and printed, but no process is started for it,
although none fails and no signal is received. -/
theorem execute_without_words :
    let job : Job := { lines := [['a']], shell := [], positional := some [['x']] }
    let s : Schedule := {}
    (s.child 1).fate = .ends 0 [] [] ∧ job.received s 1 = [] ∧
      (job.execute s).1 = [.announced 1 ['a'], .echoed ['a']] ∧
      ¬ ∃ words later, (job.execute s).1 =
        .announced 1 ['a'] :: .echoed ['a'] :: .started words none none :: later := by
  intro job s
  have htrace : (job.execute s).1 = [.announced 1 ['a'], .echoed ['a']] := rfl
  refine ⟨rfl, rfl, htrace, ?_⟩
  rintro ⟨words, later, h⟩
  rw [htrace] at h
  cases h

end Job

end Runbook
