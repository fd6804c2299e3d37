import Runbook.Execution.Basic
import Mathlib.Tactic

set_option autoImplicit false

/-! # The turn of a line

An execution that is not dry takes turns: the line is announced and printed, a process is started
for it and waited for. The turn is the last when its process has no words or is not started, when
it fails, or when a signal is received; otherwise nothing has been received at the start of
the next turn. This file says what happens in one turn, and that a run is a turn and a run.
-/

namespace Runbook

/-- The process of line number `i`. -/
def Schedule.child (s : Schedule) (i : Nat) : Child := s.children.getD (i - 1) {}

/-- The signals that arrive while a process is waited for. -/
def Fate.signals : Fate → List Signal
  | .notStarted _ => []
  | .refused _ => []
  | .ends _ signals late => signals ++ late

/-- What happens when signals arrive is that one of them is received, or passed on. -/
theorem exists_signal_of_mem_arrivals {running : Bool} {signals : List Signal} {e : Event}
    (h : e ∈ arrivals running signals) :
    ∃ signal ∈ signals, e = .received signal ∨ e = .relayed signal := by
  obtain ⟨signal, hsignal, he⟩ := List.mem_flatMap.mp h
  refine ⟨signal, hsignal, ?_⟩
  split at he
  · rcases List.mem_cons.mp he with he | he
    · exact Or.inl he
    · exact Or.inr (List.mem_singleton.mp he)
  · exact Or.inl (List.mem_singleton.mp he)

/-! ## Views of events -/

section Views

variable {α : Type} {f : Event → Option α}

theorem filterMap_cons_toList (e : Event) (events : List Event) :
    (e :: events).filterMap f = (f e).toList ++ events.filterMap f := by
  rw [List.filterMap_cons]
  cases f e with
  | none => rfl
  | some a => rfl

/-- What is read off other events is not read off signals that arrive. -/
theorem filterMap_arrivals
    (hf : ∀ signal, f (.received signal) = none ∧ f (.relayed signal) = none) (running : Bool)
    (signals : List Signal) : (arrivals running signals).filterMap f = [] := by
  rw [List.filterMap_eq_nil_iff]
  intro e he
  obtain ⟨signal, _, rfl | rfl⟩ := exists_signal_of_mem_arrivals he
  · exact (hf signal).1
  · exact (hf signal).2

end Views

namespace Job

variable {job : Job} {s : Schedule} {i n : Nat} {text : Text} {more : List Text}

/-! ## The words of a process -/

/-- Whether the processes have words. With positional arguments, a line sees itself under the name
of the recipe or else under that of the command; there may be neither. -/
def HasWords (job : Job) : Prop := job.positional = none ∨ job.recipe ≠ [] ∨ job.shell ≠ []

theorem argv_eq_none_iff :
    argv text job.shell job.recipe job.positional = none ↔ ¬ job.HasWords := by
  unfold argv HasWords
  cases job.positional with
  | none => simp
  | some arguments =>
      by_cases hrecipe : job.recipe = []
      · simp [hrecipe]
      · simp [hrecipe]

/-! ## Turns -/

/-- The signals that arrive while a line is announced. -/
def heard (job : Job) (s : Schedule) (i : Nat) : List Signal :=
  if job.announce then s.announced i else []

/-- The signals that are received in the turn of a line, in order. -/
def received (job : Job) (s : Schedule) (i : Nat) : List Signal :=
  job.heard s i ++ (s.child i).early ++ (s.child i).fate.signals

/-- What happens in the turn of a line. -/
def turn (job : Job) (s : Schedule) (i : Nat) (text : Text) : List Event :=
  job.opening (job.heard s i) i text ++
    match argv text job.shell job.recipe job.positional with
    | none => []
    | some words => job.attempt words (s.child i)

/-- How the turn of a line ends the execution, if it does. -/
def ending (job : Job) (s : Schedule) (i : Nat) (text : Text) : Option Stop :=
  match argv text job.shell job.recipe job.positional with
  | none => some .noCommand
  | some _ => job.stop? (job.heard s i) (s.child i) i

/-- A turn opens with its announcement, the signals that arrive during it, and the print of its
line. -/
theorem eq_of_mem_opening {announced : List Signal} {e : Event}
    (h : e ∈ job.opening announced i text) :
    e = .announced i text ∨ (∃ signal ∈ announced, e = .received signal) ∨ e = .echoed text := by
  unfold opening at h
  rcases List.mem_append.mp h with h | h
  · split at h
    · rcases List.mem_cons.mp h with rfl | h
      · exact Or.inl rfl
      · obtain ⟨signal, hsignal, he⟩ := List.mem_flatMap.mp h
        exact Or.inr (Or.inl ⟨signal, hsignal, List.mem_singleton.mp he⟩)
    · cases h
  · split at h
    · exact Or.inr (Or.inr (List.mem_singleton.mp h))
    · cases h

section Views

variable {α : Type} {f : Event → Option α}
  (hf : ∀ signal, f (.received signal) = none ∧ f (.relayed signal) = none)

include hf

theorem filterMap_opening (announced : List Signal) :
    (job.opening announced i text).filterMap f =
      (if job.announce then (f (.announced i text)).toList else []) ++
        if job.echo || job.dryRun then (f (.echoed text)).toList else [] := by
  unfold opening
  rw [List.filterMap_append]
  congr 1
  · split
    · rw [filterMap_cons_toList, filterMap_arrivals hf, List.append_nil]
    · rfl
  · split
    · rw [filterMap_cons_toList, List.filterMap_nil, List.append_nil]
    · rfl

variable (hwaited : ∀ status, f (.waited status) = none)

include hwaited

theorem filterMap_attempt (words : List Text) (child : Child) :
    (job.attempt words child).filterMap f =
      (f (.started words job.environment job.directory)).toList := by
  unfold attempt
  rw [List.filterMap_append, filterMap_cons_toList, filterMap_arrivals hf, List.append_nil]
  cases child.fate with
  | notStarted reason => exact List.append_nil _
  | refused refusal => exact List.append_nil _
  | ends status signals late =>
      dsimp only
      rw [List.filterMap_append, List.filterMap_append, filterMap_arrivals hf,
        filterMap_arrivals hf, filterMap_cons_toList, hwaited]
      exact List.append_nil _

/-- What is read off the events of a turn, signals and waits apart. -/
theorem filterMap_turn : (job.turn s i text).filterMap f =
    (job.opening (job.heard s i) i text).filterMap f ++
      ((argv text job.shell job.recipe job.positional).bind fun words =>
        f (.started words job.environment job.directory)).toList := by
  unfold turn
  rw [List.filterMap_append]
  congr 1
  cases argv text job.shell job.recipe job.positional with
  | none => rfl
  | some words => exact filterMap_attempt hf hwaited words (s.child i)

end Views

/-- Why the turn of a line is the last. -/
inductive StopsAt (job : Job) (s : Schedule) (i : Nat) : Prop where
  | noWords (h : ¬ job.HasWords)
  | notStarted {reason : Text} (h : (s.child i).fate = .notStarted reason)
  | refused {refusal : Refusal} (h : (s.child i).fate = .refused refusal)
  | failed {status : Int} {signals late : List Signal}
      (h : (s.child i).fate = .ends status signals late) (hne : status ≠ 0)
  | signalled (h : job.received s i ≠ [])

theorem firstHeard_eq (announced : List Signal) (child : Child) :
    firstHeard announced child = (announced ++ child.early ++ child.fate.signals).head? := by
  unfold firstHeard Fate.signals
  cases child.fate with
  | notStarted reason => simp
  | refused refusal => simp
  | ends status signals late => simp

/-- A process lets the execution go on when it succeeds and no signal is received. -/
theorem stop?_eq_none_iff : job.stop? (job.heard s i) (s.child i) i = none ↔
    (∃ signals late, (s.child i).fate = .ends 0 signals late) ∧ job.received s i = [] := by
  have hfirst := firstHeard_eq (job.heard s i) (s.child i)
  unfold stop?
  rw [hfirst, ← received]
  cases hfate : (s.child i).fate with
  | notStarted reason =>
      cases job.shell with
      | nil => simp
      | cons command rest => simp
  | refused refusal => simp
  | ends status signals late =>
      cases hreceived : job.received s i with
      | cons signal others => simp
      | nil =>
          dsimp only [List.head?_nil]
          by_cases hneg : status < 0
          · have hne : status ≠ 0 := by omega
            simp [hneg, hne]
          · by_cases hzero : status = 0
            · simp [hzero]
            · simp [hneg, hzero]

/-- **The execution goes on after a turn unless there is a reason to stop.** -/
theorem ending_eq_none_iff : job.ending s i text = none ↔ ¬ job.StopsAt s i := by
  unfold ending
  cases hwords : argv text job.shell job.recipe job.positional with
  | none =>
      have hstop : job.StopsAt s i := StopsAt.noWords (argv_eq_none_iff.mp hwords)
      simp [hstop]
  | some words =>
      have hhas : job.HasWords := by
        by_contra h
        rw [argv_eq_none_iff.mpr h] at hwords
        cases hwords
      dsimp only
      rw [stop?_eq_none_iff]
      constructor
      · rintro ⟨⟨signals, late, hfate⟩, hreceived⟩ hstop
        cases hstop with
        | noWords h => exact h hhas
        | notStarted h =>
            rw [hfate] at h
            cases h
        | refused h =>
            rw [hfate] at h
            cases h
        | failed h hne =>
            rw [hfate] at h
            cases h
            exact hne rfl
        | signalled h => exact h hreceived
      · intro hgo
        have hreceived : job.received s i = [] := by
          by_contra h
          exact hgo (StopsAt.signalled h)
        refine ⟨?_, hreceived⟩
        cases hfate : (s.child i).fate with
        | notStarted reason => exact absurd (StopsAt.notStarted hfate) hgo
        | refused refusal => exact absurd (StopsAt.refused hfate) hgo
        | ends status signals late =>
            have hzero : status = 0 := by
              by_contra hne
              exact hgo (StopsAt.failed hfate hne)
            exact ⟨signals, late, by rw [hzero]⟩

/-- A turn that is not the last has a process that succeeds, and no signal is received in it. -/
theorem succeeded_of_not_stopsAt (h : ¬ job.StopsAt s i) :
    (∃ signals late, (s.child i).fate = .ends 0 signals late) ∧ job.received s i = [] := by
  have hending : job.ending s i [] = none := ending_eq_none_iff.mpr h
  unfold ending at hending
  split at hending
  · cases hending
  · exact stop?_eq_none_iff.mp hending

/-! ## Runs -/

/-- The run of lines, the first of which has number `n`, when nothing has been received yet. -/
def runAt (job : Job) (s : Schedule) (n : Nat) (ls : List Text) : List Event × Option Stop :=
  job.runFrom s.announced n none (s.children.drop (n - 1)) ls

theorem execute_eq_runAt (job : Job) (s : Schedule) : job.execute s = job.runAt s 1 job.lines := rfl

theorem head?_children (s : Schedule) (n : Nat) :
    (s.children.drop (n - 1)).head?.getD {} = s.child n := by
  unfold Schedule.child
  rw [List.head?_drop, List.getD_eq_getElem?_getD]

/-- A turn that is the last is the whole run. -/
theorem runAt_of_ending {stop : Stop} (hdry : job.dryRun = false)
    (h : job.ending s n text = some stop) :
    job.runAt s n (text :: more) = (job.turn s n text, some stop) := by
  unfold ending at h
  unfold runAt runFrom turn
  rw [hdry, head?_children]
  cases hwords : argv text job.shell job.recipe job.positional with
  | none =>
      rw [hwords] at h
      cases h
      rw [List.append_nil]
      rfl
  | some words =>
      rw [hwords] at h
      dsimp only at h ⊢
      rw [← heard, h]
      rfl

/-- After a turn that is not the last, the run goes on with nothing received. -/
theorem runAt_of_going (hdry : job.dryRun = false) (hn : 1 ≤ n)
    (h : job.ending s n text = none) :
    job.runAt s n (text :: more) =
      (job.turn s n text ++ (job.runAt s (n + 1) more).1, (job.runAt s (n + 1) more).2) := by
  have hchildren : (s.children.drop (n - 1)).drop 1 = s.children.drop (n + 1 - 1) := by
    rw [List.drop_drop]
    congr 1
    omega
  unfold ending at h
  unfold runAt turn
  rw [runFrom, hdry, head?_children, hchildren]
  cases hwords : argv text job.shell job.recipe job.positional with
  | none =>
      rw [hwords] at h
      cases h
  | some words =>
      rw [hwords] at h
      dsimp only at h ⊢
      rw [← heard, h]
      rfl

end Job

end Runbook
