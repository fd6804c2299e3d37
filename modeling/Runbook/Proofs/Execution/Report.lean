import Runbook.Proofs.Execution.Trace

set_option autoImplicit false

/-! # How an execution is reported

An execution that is not dry ends with the first turn that there is a reason to stop at. What it is
reported with is decided by that turn alone, and in a fixed order: that the process could not be
started comes before a signal that was received, the first of several, and a signal before the status
of the process.

Only what the system says about a start is reported. A process that is refused, because of the words or
the variables that it is to be given, breaks the execution off without a report. A start that fails is
reported with the name of the shell's command; a shell that is empty has none, and the report fails
instead.
-/

namespace Runbook

namespace Job

variable {job : Job} {s : Schedule} {i k n : Nat} {text : Text}

/-! ## What a turn is reported with -/

/-- The fault that the turn of a line is reported with, and its exit status. -/
inductive Reports (job : Job) (s : Schedule) (k : Nat) : RunFault → Int → Prop where
  | notStarted {reason command : Text} {rest : List Text}
      (hfate : (s.child k).fate = .notStarted reason) (hshell : job.shell = command :: rest) :
      Reports job s k (.notStarted job.recipe k command reason) 127
  | signalled {status : Int} {signals late others : List Signal} {first : Signal}
      (hfate : (s.child k).fate = .ends status signals late)
      (hreceived : job.received s k = first :: others) :
      Reports job s k (.killed job.recipe k first.number) (128 + first.number)
  | killed {status : Int} {signals late : List Signal}
      (hfate : (s.child k).fate = .ends status signals late) (hreceived : job.received s k = [])
      (hneg : status < 0) :
      Reports job s k (.killed job.recipe k (-status)) (128 + -status)
  | exited {status : Int} {signals late : List Signal}
      (hfate : (s.child k).fate = .ends status signals late) (hreceived : job.received s k = [])
      (hpos : 0 < status) :
      Reports job s k (.exited job.recipe k status) status

/-- The shell is an empty command, whose name is needed: for the words of the process, or because
the process could not be started. -/
structure LacksCommand (job : Job) (s : Schedule) (k : Nat) : Prop where
  shell : job.shell = []
  needed : ¬ job.HasWords ∨ ∃ reason, (s.child k).fate = .notStarted reason

theorem Reports.line_exitCode {fault : RunFault} {code : Int} (h : job.Reports s k fault code) :
    fault.line? = some k ∧ fault.exitCode = code := by
  cases h with
  | notStarted hfate hshell => exact ⟨rfl, rfl⟩
  | signalled hfate hreceived => exact ⟨rfl, rfl⟩
  | killed hfate hreceived hneg => exact ⟨rfl, rfl⟩
  | exited hfate hreceived hpos => exact ⟨rfl, rfl⟩

theorem Reports.code_ne_zero {fault : RunFault} {code : Int} (h : job.Reports s k fault code) :
    code ≠ 0 := by
  cases h with
  | notStarted hfate hshell => decide
  | signalled hfate hreceived => omega
  | killed hfate hreceived hneg => omega
  | exited hfate hreceived hpos => omega

/-- What is reported is no refusal. -/
theorem Reports.not_refused {fault : RunFault} {code : Int} {refusal : Refusal}
    (h : job.Reports s k fault code) : (s.child k).fate ≠ .refused refusal := by
  intro hrefused
  cases h with
  | notStarted hfate => rw [hrefused] at hfate; cases hfate
  | signalled hfate => rw [hrefused] at hfate; cases hfate
  | killed hfate => rw [hrefused] at hfate; cases hfate
  | exited hfate => rw [hrefused] at hfate; cases hfate

theorem shell_eq_nil_of_not_hasWords (h : ¬ job.HasWords) : job.shell = [] := by
  by_contra hne
  exact h (Or.inr (Or.inr hne))

/-- **The report of a turn that ends the execution.** -/
theorem reports_of_ending {stop : Stop} (h : job.ending s k text = some stop) :
    (∃ fault code, stop = .fault fault ∧ job.Reports s k fault code) ∨
      (∃ refusal, stop = .refused refusal ∧ (s.child k).fate = .refused refusal) ∨
      stop = .noCommand ∧ job.LacksCommand s k := by
  unfold ending at h
  split at h
  · next hwords =>
      cases h
      have hnot := argv_eq_none_iff.mp hwords
      exact Or.inr (Or.inr ⟨rfl, shell_eq_nil_of_not_hasWords hnot, Or.inl hnot⟩)
  · unfold stop? at h
    rw [firstHeard_eq, ← received] at h
    cases hfate : (s.child k).fate with
    | notStarted reason =>
        rw [hfate] at h
        cases hshell : job.shell with
        | nil =>
            rw [hshell] at h
            cases h
            exact Or.inr (Or.inr ⟨rfl, hshell, Or.inr ⟨reason, hfate⟩⟩)
        | cons command rest =>
            rw [hshell] at h
            cases h
            exact Or.inl ⟨_, _, rfl, .notStarted hfate hshell⟩
    | refused refusal =>
        rw [hfate] at h
        cases h
        exact Or.inr (Or.inl ⟨refusal, rfl, rfl⟩)
    | ends status signals late =>
        rw [hfate] at h
        cases hreceived : job.received s k with
        | cons first others =>
            rw [hreceived] at h
            cases h
            exact Or.inl ⟨_, _, rfl, .signalled hfate hreceived⟩
        | nil =>
            rw [hreceived] at h
            dsimp only [List.head?_nil] at h
            split at h
            · next hneg =>
                cases h
                exact Or.inl ⟨_, _, rfl, .killed hfate hreceived hneg⟩
            · next hneg =>
                split at h
                · cases h
                · next hne =>
                    cases h
                    exact Or.inl ⟨_, _, rfl, .exited hfate hreceived (by omega)⟩

/-! ## Executions -/

/-- The first turn of an execution of `n` lines that there is a reason to stop at. -/
structure FirstStop (job : Job) (s : Schedule) (n k : Nat) : Prop where
  pos : 1 ≤ k
  le : k ≤ n
  goes_on : ∀ i, 1 ≤ i → i < k → ¬ job.StopsAt s i
  stops : job.StopsAt s k

/-- There is one first stop at most. -/
theorem FirstStop.eq {j : Nat} (h : job.FirstStop s n k) (hj : job.FirstStop s n j) : k = j := by
  rcases Nat.lt_trichotomy k j with hlt | heq | hgt
  · exact absurd h.stops (hj.goes_on k h.pos hlt)
  · exact heq
  · exact absurd hj.stops (h.goes_on j hj.pos hgt)

/-- An execution goes through all its turns, or else it ends with the first that there is a reason to
stop at. -/
theorem execute_outcome (hdry : job.dryRun = false) (s : Schedule) :
    ((∀ i, 1 ≤ i → i ≤ job.lines.length → ¬ job.StopsAt s i) ∧
      job.execute s = (job.turns s 1 job.lines, none)) ∨
    ∃ k stop text, job.FirstStop s job.lines.length k ∧ job.ending s k text = some stop ∧
      job.execute s = (job.turns s 1 (job.lines.take k), some stop) := by
  rw [execute_eq_runAt]
  rcases runAt_outcome (s := s) hdry (Nat.le_refl 1) job.lines with
    ⟨hall, hrun⟩ | ⟨k, stop, text, hk, hbefore, hstop, hrun⟩
  · exact Or.inl ⟨fun i hi hle => hall i hi (by omega), hrun⟩
  · rw [Nat.add_comm 1 k] at hstop hbefore
    have hfirst : job.FirstStop s job.lines.length (k + 1) :=
      ⟨by omega, hk, hbefore, stopsAt_of_ending hstop⟩
    exact Or.inr ⟨k + 1, stop, text, hfirst, hstop, hrun⟩

/-- **An execution is reported as its first stop is.** It returns only if every process has succeeded
and no signal was received; otherwise it ends with the turn of its first stop. That turn decides on the
fault and the exit status, unless its process was refused or there is no command to report: then the
execution breaks off. -/
theorem execute_report (hdry : job.dryRun = false) (s : Schedule) :
    ((job.execute s).2 = none ∧ ∀ i, 1 ≤ i → i ≤ job.lines.length →
      (∃ signals late, (s.child i).fate = .ends 0 signals late) ∧ job.received s i = []) ∨
    ∃ k, job.FirstStop s job.lines.length k ∧
      (job.execute s).1 = job.turns s 1 (job.lines.take k) ∧
      ((∃ fault code, (job.execute s).2 = some (.fault fault) ∧ job.Reports s k fault code ∧
          fault.line? = some k ∧ fault.exitCode = code) ∨
        (∃ refusal, (job.execute s).2 = some (.refused refusal) ∧
          (s.child k).fate = .refused refusal) ∨
        (job.execute s).2 = some .noCommand ∧ job.LacksCommand s k) := by
  rcases execute_outcome hdry s with ⟨hall, hrun⟩ | ⟨k, stop, text, hfirst, hstop, hrun⟩
  · rw [hrun]
    exact Or.inl ⟨rfl, fun i hi hle => succeeded_of_not_stopsAt (hall i hi hle)⟩
  · rw [hrun]
    refine Or.inr ⟨k, hfirst, rfl, ?_⟩
    rcases reports_of_ending hstop with
      ⟨fault, code, rfl, hreports⟩ | ⟨refusal, rfl, hfate⟩ | ⟨rfl, hlacks⟩
    · exact Or.inl ⟨fault, code, rfl, hreports, hreports.line_exitCode⟩
    · exact Or.inr (Or.inl ⟨refusal, rfl, hfate⟩)
    · exact Or.inr (Or.inr ⟨rfl, hlacks⟩)

/-- The theorem at three lines. While the second one runs, an interrupt arrives and then a hangup; its
process succeeds nevertheless, and the interrupt is reported. -/
theorem execute_report_interrupted :
    let job : Job := { lines := [['a'], ['b'], ['c']], shell := [['s', 'h']] }
    let s : Schedule := { children := [{}, { fate := .ends 0 [.interrupt] [.hangup] }] }
    (job.dryRun = false ∧ (job.execute s).2 = some (.fault (.killed [] 2 2))) ∧
    (((job.execute s).2 = none ∧ ∀ i, 1 ≤ i → i ≤ job.lines.length →
      (∃ signals late, (s.child i).fate = .ends 0 signals late) ∧ job.received s i = []) ∨
    ∃ k, job.FirstStop s job.lines.length k ∧
      (job.execute s).1 = job.turns s 1 (job.lines.take k) ∧
      ((∃ fault code, (job.execute s).2 = some (.fault fault) ∧ job.Reports s k fault code ∧
          fault.line? = some k ∧ fault.exitCode = code) ∨
        (∃ refusal, (job.execute s).2 = some (.refused refusal) ∧
          (s.child k).fate = .refused refusal) ∨
        (job.execute s).2 = some .noCommand ∧ job.LacksCommand s k)) := by
  intro job s
  exact ⟨⟨rfl, rfl⟩, execute_report rfl s⟩

/-- A line with a null character cannot be given to any process, and that its process is refused is
reported with no fault at all. -/
theorem execute_refused_unreported :
    let line := "a\x00b".toList
    let words := ["sh".toList, "-cu".toList, line]
    let job : Job := { lines := [line], shell := ["sh".toList, "-cu".toList] }
    let s : Schedule := { children := [{ fate := .refused .nullCharacter }] }
    argv line job.shell job.recipe job.positional = some words ∧
      refusal? words [] = some .nullCharacter ∧
      job.FirstStop s job.lines.length 1 ∧
      (job.execute s).2 = some (.refused .nullCharacter) ∧
      ¬ ∃ fault, (job.execute s).2 = some (.fault fault) ∧ fault.line? = some 1 ∧
        fault.exitCode = 127 := by
  intro line words job s
  have hstop : job.StopsAt s 1 := .refused rfl
  have hresult : (job.execute s).2 = some (.refused .nullCharacter) := rfl
  refine ⟨rfl, by decide, ⟨Nat.le_refl 1, Nat.le_refl 1, fun i hi hlt => by omega, hstop⟩, hresult, ?_⟩
  rintro ⟨fault, hfault, _⟩
  rw [hresult] at hfault
  cases hfault

end Job

end Runbook
