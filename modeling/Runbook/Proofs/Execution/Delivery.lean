import Runbook.Proofs.Execution.Trace

set_option autoImplicit false

/-! # Which signals reach a process

Signals that ask to end are passed on to the process that is running. What becomes of each signal is
read off the events alone: when it is received, the process that has been started and not yet waited
for is the one it falls to, and what is passed on before another signal is received is passed on
because of it. A signal that arrives while a process is waited for, and runs, is passed on exactly
once; an interrupt is not, nor is a signal that arrives when the process has ended. A signal that
arrives as soon as the process has been started, when it is not yet known, is not passed on either,
although the process is running.
-/

namespace Runbook

/-! ## Deliveries -/

/-- What becomes of a signal that is received. -/
structure Delivery where
  /-- The number of the process that has been started and not waited for, if there is one. -/
  process : Option Nat
  signal : Signal
  /-- The signals that are passed on before another one is received. -/
  relayed : List Signal
  deriving DecidableEq, Repr

/-- The signals that are passed on before one is received. -/
def relayedFirst : List Event → List Signal
  | [] => []
  | .received _ :: _ => []
  | .relayed signal :: more => signal :: relayedFirst more
  | _ :: more => relayedFirst more

/-- The deliveries of events, `n` processes having been started before, and `process` being the one
that is not yet waited for. -/
def deliveriesFrom : Nat → Option Nat → List Event → List Delivery
  | _, _, [] => []
  | n, process, .received signal :: more =>
      ⟨process, signal, relayedFirst more⟩ :: deliveriesFrom n process more
  | n, _, .started .. :: more => deliveriesFrom (n + 1) (some (n + 1)) more
  | n, _, .waited _ :: more => deliveriesFrom n none more
  | n, process, _ :: more => deliveriesFrom n process more

/-- The signals of an execution, in the order in which they are received. -/
def deliveries (events : List Event) : List Delivery := deliveriesFrom 0 none events

/-- Signals that are not passed on. -/
def unanswered (process : Option Nat) (signals : List Signal) : List Delivery :=
  signals.map fun signal => ⟨process, signal, []⟩

/-- Signals each of which is passed on once, unless it is an interrupt. -/
def answered (process : Option Nat) (signals : List Signal) : List Delivery :=
  signals.map fun signal => ⟨process, signal, if signal.isRelayed then [signal] else []⟩

/-- The deliveries of the signals that fall to the process of line number `i`. -/
def Child.deliveries (child : Child) (i : Nat) : List Delivery :=
  unanswered (some i) child.early ++
    match child.fate with
    | .notStarted _ => []
    | .refused _ => []
    | .ends _ signals late => answered (some i) signals ++ unanswered (some i) late

/-- The process that is still to be waited for after the attempt to run it: one that was not started,
since nothing is waited for then. -/
def Fate.unwaited (fate : Fate) (i : Nat) : Option Nat :=
  match fate with
  | .notStarted _ => some i
  | .refused _ => some i
  | .ends _ _ _ => none

/-! ## Signals that arrive -/

variable {n : Nat} {process : Option Nat} {rest : List Event}

theorem arrivals_cons (running : Bool) (signal : Signal) (signals : List Signal) :
    arrivals running (signal :: signals) =
      (if running && signal.isRelayed then [.received signal, .relayed signal]
        else [.received signal]) ++ arrivals running signals := rfl

/-- Nothing is passed on before the first of the signals that arrive. -/
theorem relayedFirst_arrivals (h : relayedFirst rest = []) (running : Bool)
    (signals : List Signal) : relayedFirst (arrivals running signals ++ rest) = [] := by
  cases signals with
  | nil => exact h
  | cons signal signals =>
      rw [arrivals_cons]
      split
      · rfl
      · rfl

theorem deliveriesFrom_arrivals_idle (h : relayedFirst rest = []) (signals : List Signal) :
    deliveriesFrom n process (arrivals false signals ++ rest) =
      unanswered process signals ++ deliveriesFrom n process rest := by
  induction signals with
  | nil => rfl
  | cons signal signals ih =>
      show ⟨process, signal, relayedFirst (arrivals false signals ++ rest)⟩ ::
        deliveriesFrom n process (arrivals false signals ++ rest) = _
      rw [relayedFirst_arrivals h, ih]
      rfl

theorem deliveriesFrom_arrivals_running (h : relayedFirst rest = []) (signals : List Signal) :
    deliveriesFrom n process (arrivals true signals ++ rest) =
      answered process signals ++ deliveriesFrom n process rest := by
  induction signals with
  | nil => rfl
  | cons signal signals ih =>
      have hfirst := relayedFirst_arrivals h true signals
      show _ = ⟨process, signal, if signal.isRelayed then [signal] else []⟩ ::
        (answered process signals ++ deliveriesFrom n process rest)
      rw [← ih, arrivals_cons, Bool.true_and]
      cases signal.isRelayed with
      | true =>
          show ⟨process, signal, signal :: relayedFirst (arrivals true signals ++ rest)⟩ ::
            deliveriesFrom n process (arrivals true signals ++ rest) = _
          rw [hfirst]
          rfl
      | false =>
          show ⟨process, signal, relayedFirst (arrivals true signals ++ rest)⟩ ::
            deliveriesFrom n process (arrivals true signals ++ rest) = _
          rw [hfirst]
          rfl

namespace Job

variable {job : Job} {s : Schedule} {i : Nat} {text : Text}

/-! ## One turn -/

theorem relayedFirst_echoed (printed : Bool) (text : Text) :
    relayedFirst ((if printed then [.echoed text] else []) ++ rest) = relayedFirst rest := by
  cases printed with
  | true => rfl
  | false => rfl

theorem deliveriesFrom_echoed (printed : Bool) (text : Text) :
    deliveriesFrom n process ((if printed then [.echoed text] else []) ++ rest) =
      deliveriesFrom n process rest := by
  cases printed with
  | true => rfl
  | false => rfl

theorem relayedFirst_opening (hrest : relayedFirst rest = []) (announced : List Signal) :
    relayedFirst (job.opening announced i text ++ rest) = [] := by
  rw [← relayedFirst_echoed (job.echo || job.dryRun) text] at hrest
  unfold opening
  rw [List.append_assoc]
  cases job.announce with
  | true => exact relayedFirst_arrivals hrest false announced
  | false => exact hrest

/-- The signals of an announcement fall to no new process. -/
theorem deliveriesFrom_opening (hrest : relayedFirst rest = []) :
    deliveriesFrom n process (job.opening (job.heard s i) i text ++ rest) =
      unanswered process (job.heard s i) ++ deliveriesFrom n process rest := by
  rw [← relayedFirst_echoed (job.echo || job.dryRun) text] at hrest
  have hechoed : deliveriesFrom n process _ = deliveriesFrom n process rest :=
    deliveriesFrom_echoed (job.echo || job.dryRun) text
  unfold opening heard
  rw [List.append_assoc, ← hechoed]
  cases job.announce with
  | true => exact deliveriesFrom_arrivals_idle hrest (s.announced i)
  | false => rfl

theorem relayedFirst_attempt (hrest : relayedFirst rest = []) (words : List Text)
    (child : Child) : relayedFirst (job.attempt words child ++ rest) = [] := by
  unfold attempt
  rw [List.append_assoc]
  cases child.fate with
  | notStarted reason => exact relayedFirst_arrivals hrest false child.early
  | refused refusal => exact relayedFirst_arrivals hrest false child.early
  | ends status signals late =>
      have hwaited : relayedFirst (.waited status :: rest) = [] := hrest
      have hlate := relayedFirst_arrivals hwaited false late
      have hsignals := relayedFirst_arrivals hlate true signals
      simp only [List.append_assoc, List.singleton_append]
      exact relayedFirst_arrivals hsignals false child.early

/-- The signals of an attempt fall to its process. -/
theorem deliveriesFrom_attempt (hrest : relayedFirst rest = []) (words : List Text)
    (child : Child) : deliveriesFrom n process (job.attempt words child ++ rest) =
      child.deliveries (n + 1) ++ deliveriesFrom (n + 1) (child.fate.unwaited (n + 1)) rest := by
  unfold attempt Child.deliveries Fate.unwaited
  rw [List.append_assoc]
  cases child.fate with
  | notStarted reason =>
      show deliveriesFrom (n + 1) (some (n + 1)) (arrivals false child.early ++ rest) = _
      rw [deliveriesFrom_arrivals_idle hrest, List.append_nil]
  | refused refusal =>
      show deliveriesFrom (n + 1) (some (n + 1)) (arrivals false child.early ++ rest) = _
      rw [deliveriesFrom_arrivals_idle hrest, List.append_nil]
  | ends status signals late =>
      -- From the back: the wait, the signals that come too late, those that are passed on.
      have hwaited : relayedFirst (.waited status :: rest) = [] := hrest
      have hlate := relayedFirst_arrivals hwaited false late
      have hsignals := relayedFirst_arrivals hlate true signals
      simp only [List.append_assoc, List.singleton_append]
      show deliveriesFrom (n + 1) (some (n + 1)) (arrivals false child.early ++
        (arrivals true signals ++ (arrivals false late ++ .waited status :: rest))) = _
      rw [deliveriesFrom_arrivals_idle hsignals, deliveriesFrom_arrivals_running hlate,
        deliveriesFrom_arrivals_idle hwaited]
      rfl

theorem relayedFirst_turn (hrest : relayedFirst rest = []) :
    relayedFirst (job.turn s i text ++ rest) = [] := by
  unfold turn
  rw [List.append_assoc]
  cases argv text job.shell job.recipe job.positional with
  | none => exact relayedFirst_opening hrest (job.heard s i)
  | some words =>
      exact relayedFirst_opening (relayedFirst_attempt hrest words (s.child i)) (job.heard s i)

/-- The signals of a turn: those of its announcement, and those of its process. -/
theorem deliveriesFrom_turn (hwords : job.HasWords) (hrest : relayedFirst rest = []) :
    deliveriesFrom n process (job.turn s i text ++ rest) =
      unanswered process (job.heard s i) ++ ((s.child i).deliveries (n + 1) ++
        deliveriesFrom (n + 1) ((s.child i).fate.unwaited (n + 1)) rest) := by
  unfold turn
  rw [List.append_assoc]
  cases hargv : argv text job.shell job.recipe job.positional with
  | none => exact absurd hwords (argv_eq_none_iff.mp hargv)
  | some words =>
      dsimp only
      rw [deliveriesFrom_opening (relayedFirst_attempt hrest words (s.child i)),
        deliveriesFrom_attempt hrest]

/-! ## All turns -/

/-- No signal is passed on before one is received. -/
theorem relayedFirst_turns (ls : List Text) : relayedFirst (job.turns s n ls) = [] := by
  induction ls generalizing n with
  | nil => rfl
  | cons text more ih =>
      rw [turns_cons]
      exact relayedFirst_turn ih

/-- The deliveries of turns none of which but the last is a reason to stop. -/
theorem deliveriesFrom_turns (hwords : job.HasWords) {ls : List Text}
    (hgo : ∀ i, n + 1 ≤ i → i < n + ls.length → ¬ job.StopsAt s i) :
    deliveriesFrom n none (job.turns s (n + 1) ls) =
      (List.range' (n + 1) ls.length).flatMap fun i =>
        unanswered none (job.heard s i) ++ (s.child i).deliveries i := by
  -- Along the lines; between two turns no process is left to be waited for.
  induction ls generalizing n with
  | nil => rfl
  | cons text more ih =>
      rw [turns_cons, deliveriesFrom_turn hwords (relayedFirst_turns more), List.length_cons,
        List.range'_succ, List.flatMap_cons, List.append_assoc]
      congr 2
      cases more with
      | nil => rfl
      | cons next more =>
          have hgoing : ¬ job.StopsAt s (n + 1) :=
            hgo (n + 1) (Nat.le_refl _) (by simp only [List.length_cons]; omega)
          have hwaited : (s.child (n + 1)).fate.unwaited (n + 1) = none := by
            obtain ⟨⟨signals, late, hfate⟩, _⟩ := succeeded_of_not_stopsAt hgoing
            rw [hfate]
            rfl
          rw [hwaited]
          exact ih fun i hi hlt => hgo i (by omega) (by simp only [List.length_cons] at hlt ⊢; omega)

/-- **Which signals reach a process.** In the turns of an execution, a signal that arrives while a
process is waited for, and runs, is passed on to it exactly once and at once, unless it is an
interrupt. No other signal is passed on: not while a line is announced, not when the process has
ended, and not between its start and its becoming known. -/
theorem execute_deliveries (hdry : job.dryRun = false) (s : Schedule) :
    ∃ k, job.LastTurn s job.lines.length k ∧ relayedFirst (job.execute s).1 = [] ∧
      (job.HasWords → deliveries (job.execute s).1 = (List.range' 1 k).flatMap fun i =>
        unanswered none (job.heard s i) ++ (s.child i).deliveries i) := by
  obtain ⟨k, hlast, hevents⟩ := exists_lastTurn hdry s
  have hlength : (job.lines.take k).length = k := List.length_take_of_le hlast.le
  refine ⟨k, hlast, by rw [hevents]; exact relayedFirst_turns _, fun hwords => ?_⟩
  have hgo : ∀ i, 0 + 1 ≤ i → i < 0 + (job.lines.take k).length → ¬ job.StopsAt s i :=
    fun i hi hlt => hlast.goes_on i hi (by omega)
  have hturns := deliveriesFrom_turns hwords hgo
  rw [hlength] at hturns
  rw [hevents]
  exact hturns

/-- The theorem at two lines. The first one is interrupted and then terminated while it runs, and
terminated again when it has ended. -/
theorem execute_deliveries_terminated :
    let job : Job := { lines := [['a'], ['b']], shell := [['s', 'h']] }
    let s : Schedule := {
      children := [{ fate := .ends (-15) [.interrupt, .terminate] [.terminate] }] }
    (job.dryRun = false ∧ deliveries (job.execute s).1 =
      [⟨some 1, .interrupt, []⟩, ⟨some 1, .terminate, [.terminate]⟩, ⟨some 1, .terminate, []⟩]) ∧
    ∃ k, job.LastTurn s job.lines.length k ∧ relayedFirst (job.execute s).1 = [] ∧
      (job.HasWords → deliveries (job.execute s).1 = (List.range' 1 k).flatMap fun i =>
        unanswered none (job.heard s i) ++ (s.child i).deliveries i) := by
  intro job s
  exact ⟨⟨rfl, rfl⟩, execute_deliveries rfl s⟩

/-- A request to terminate that arrives as soon as the process has been started is not passed on,
although the process runs. -/
theorem execute_early_signal_unanswered :
    let job : Job := { lines := [['a']], shell := [['s', 'h']] }
    let s : Schedule := { children := [{ early := [.terminate] }] }
    (s.child 1).fate = .ends 0 [] [] ∧
      deliveries (job.execute s).1 = [⟨some 1, .terminate, []⟩] ∧
      ∀ signal, .relayed signal ∉ (job.execute s).1 := by
  intro job s
  have hevents : (job.execute s).1 = [.announced 1 ['a'], .echoed ['a'],
      .started [['s', 'h'], ['a']] none none, .received .terminate, .waited 0] := rfl
  refine ⟨rfl, rfl, fun signal h => ?_⟩
  rw [hevents] at h
  simp at h

end Job

end Runbook
