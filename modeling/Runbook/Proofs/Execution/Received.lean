import Runbook.Proofs.Execution.Reached
import Runbook.Proofs.Execution.Report

set_option autoImplicit false

/-! # Signals that are received

A signal that has been received is looked for before the next line is announced, and when the process
of its own line has ended. A turn of an execution that is not dry ends with such a look or breaks off,
because its process cannot be started or is refused, so that an execution which returns has received
nothing. A dry run has no processes, and there is no next line after the last: what is received while
the last line of a dry run is announced is not looked for any more, and the execution returns as if
nothing had been received.
-/

namespace Runbook

namespace Job

variable {job : Job} {s : Schedule} {i n : Nat} {text : Text} {signal : Signal}

/-! ## Where signals are received -/

theorem mem_of_mem_arrivals {running : Bool} {signals : List Signal}
    (h : .received signal ∈ arrivals running signals) : signal ∈ signals := by
  obtain ⟨other, hother, heq | heq⟩ := exists_signal_of_mem_arrivals h
  · cases heq
    exact hother
  · cases heq

theorem mem_of_mem_opening {announced : List Signal}
    (h : .received signal ∈ job.opening announced i text) : signal ∈ announced := by
  rcases eq_of_mem_opening h with heq | ⟨other, hother, heq⟩ | heq
  · cases heq
  · cases heq
    exact hother
  · cases heq

theorem mem_of_mem_attempt {words : List Text} {child : Child}
    (h : .received signal ∈ job.attempt words child) :
    signal ∈ child.early ++ child.fate.signals := by
  unfold attempt at h
  rw [List.mem_append]
  rcases List.mem_append.mp h with h | h
  · rcases List.mem_cons.mp h with heq | h
    · cases heq
    · exact Or.inl (mem_of_mem_arrivals h)
  · right
    unfold Fate.signals
    cases hfate : child.fate with
    | notStarted reason =>
        rw [hfate] at h
        cases h
    | refused refusal =>
        rw [hfate] at h
        cases h
    | ends status signals late =>
        rw [hfate] at h
        rcases List.mem_append.mp h with h | h
        · rw [List.mem_append]
          exact (List.mem_append.mp h).imp mem_of_mem_arrivals mem_of_mem_arrivals
        · cases List.mem_singleton.mp h

/-- A signal that is received in a turn is one of those of the turn. -/
theorem mem_received_of_mem_turn (h : .received signal ∈ job.turn s i text) :
    signal ∈ job.received s i := by
  unfold turn at h
  unfold received
  rw [List.append_assoc, List.mem_append]
  rcases List.mem_append.mp h with h | h
  · exact Or.inl (mem_of_mem_opening h)
  · split at h
    · cases h
    · exact Or.inr (mem_of_mem_attempt h)

/-- A signal is received in one of the turns. -/
theorem exists_mem_received {ls : List Text} (h : .received signal ∈ job.turns s n ls) :
    ∃ i, n ≤ i ∧ i < n + ls.length ∧ signal ∈ job.received s i := by
  obtain ⟨⟨text, i⟩, hplace, hmem⟩ := List.mem_flatMap.mp h
  obtain ⟨hi, hlt, _⟩ := List.mem_zipIdx hplace
  exact ⟨i, hi, hlt, mem_received_of_mem_turn hmem⟩

/-! ## Executions -/

/-- **A signal that is received ends the execution with a fault**, unless the run is dry and no signal
was received before its last line: then, and only then, the execution returns. That the fault can be
reported takes a shell that is not empty, and a process that was not refused. -/
theorem execute_of_received (hreceived : .received signal ∈ (job.execute s).1) :
    ((job.execute s).2 = none ↔
      job.dryRun = true ∧ ∀ i, 1 ≤ i → i < job.lines.length → job.heard s i = []) ∧
    (job.shell ≠ [] → ∀ stop, (job.execute s).2 = some stop →
      (∃ fault, stop = .fault fault ∧ fault.isExecution = true) ∨
        ∃ refusal i, stop = .refused refusal ∧ (s.child i).fate = .refused refusal) := by
  cases hdry : job.dryRun with
  | true =>
      unfold execute at hreceived ⊢
      rcases runFrom_dryRun (s := s) hdry 1 s.children job.lines with
        ⟨hrun, hquiet⟩ | ⟨k, other, hk, hmem, hrun⟩
      · rw [hrun]
        refine ⟨⟨fun _ => ⟨rfl, fun i hi hlt => hquiet i hi (by omega)⟩, fun _ => rfl⟩, ?_⟩
        intro _ stop h
        cases h
      · rw [hrun]
        refine ⟨⟨(fun h => by cases h), fun h => ?_⟩, ?_⟩
        · rw [h.2 (1 + k) (by omega) (by omega)] at hmem
          cases hmem
        · rintro _ _ ⟨⟩
          exact Or.inl ⟨_, rfl, rfl⟩
  | false =>
      rcases execute_outcome hdry s with ⟨hall, hrun⟩ | ⟨k, stop, text, _, hstop, hrun⟩
      · -- No turn is the last, so that nothing is received in any.
        rw [hrun] at hreceived
        obtain ⟨i, hi, hlt, hmem⟩ := exists_mem_received hreceived
        rw [(succeeded_of_not_stopsAt (hall i hi (by omega))).2] at hmem
        cases hmem
      · rw [hrun]
        refine ⟨⟨(fun h => by cases h), fun h => by cases h.1⟩, ?_⟩
        rintro hshell _ ⟨⟩
        rcases reports_of_ending hstop with
          ⟨fault, code, rfl, hreports⟩ | ⟨refusal, rfl, hfate⟩ | ⟨_, hlacks⟩
        · refine Or.inl ⟨fault, rfl, ?_⟩
          unfold RunFault.isExecution
          rw [hreports.line_exitCode.1]
          rfl
        · exact Or.inr ⟨refusal, _, rfl, hfate⟩
        · exact absurd hlacks.shell hshell

/-- The theorem at a dry run of three lines, at the second of which a hangup is received. -/
theorem execute_of_received_dryRun :
    let job : Job := { lines := [['a'], ['b'], ['c']], shell := [['s', 'h']], dryRun := true }
    let s : Schedule := { announced := fun i => if i = 2 then [.hangup] else [] }
    (.received .hangup ∈ (job.execute s).1 ∧
      (job.execute s).2 = some (.fault (.killed [] 3 1))) ∧
    ((job.execute s).2 = none ↔
      job.dryRun = true ∧ ∀ i, 1 ≤ i → i < job.lines.length → job.heard s i = []) ∧
    (job.shell ≠ [] → ∀ stop, (job.execute s).2 = some stop →
      (∃ fault, stop = .fault fault ∧ fault.isExecution = true) ∨
        ∃ refusal i, stop = .refused refusal ∧ (s.child i).fate = .refused refusal) := by
  intro job s
  have hreceived : .received .hangup ∈ (job.execute s).1 := by decide
  exact ⟨⟨hreceived, rfl⟩, execute_of_received hreceived⟩

/-- A request to terminate that arrives while the last line of a dry run is announced is received, and
the execution returns all the same. -/
theorem execute_dryRun_last_line :
    let job : Job := { lines := [['a']], shell := [['s', 'h']], dryRun := true }
    let s : Schedule := { announced := fun _ => [.terminate] }
    .received .terminate ∈ (job.execute s).1 ∧ (job.execute s).2 = none := by
  decide

end Job

end Runbook
