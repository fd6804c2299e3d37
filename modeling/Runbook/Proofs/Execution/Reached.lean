import Runbook.Proofs.Execution.Report

set_option autoImplicit false

/-! # The line that an execution has reached

Lines are announced one after the other, and an execution that stops does so at the line that it has
announced last: a fault carries the number of this line and a status that is not zero. A dry run looks
for signals when it is about to announce the next line; it stops there, so that its fault carries the
number of a line which has not been announced any more.
-/

namespace Runbook

/-- The number of the line that is announced. -/
def Event.line? : Event → Option Nat
  | announced line _ => some line
  | _ => none

/-- The numbers of the lines that are announced, in order. -/
def announcedLines (events : List Event) : List Nat := events.filterMap Event.line?

theorem announcedLines_cons (e : Event) (events : List Event) :
    announcedLines (e :: events) = e.line?.toList ++ announcedLines events :=
  filterMap_cons_toList e events

theorem announcedLines_append (events later : List Event) :
    announcedLines (events ++ later) = announcedLines events ++ announcedLines later :=
  List.filterMap_append

namespace Job

variable {job : Job} {s : Schedule} {i n : Nat} {text : Text} {stop : Stop}

/-! ## Announcements -/

theorem announcedLines_opening (hannounce : job.announce = true) (signals : List Signal) :
    announcedLines (job.opening signals i text) = [i] := by
  unfold announcedLines
  rw [filterMap_opening fun _ => ⟨rfl, rfl⟩, hannounce]
  show [i] ++ (if job.echo || job.dryRun then [] else []) = [i]
  rw [ite_self]
  rfl

/-- A turn announces its own line. -/
theorem announcedLines_turn (hannounce : job.announce = true) :
    announcedLines (job.turn s i text) = [i] := by
  have hopening : announcedLines (job.opening (job.heard s i) i text) = [i] :=
    announcedLines_opening hannounce _
  unfold announcedLines at hopening ⊢
  rw [filterMap_turn (fun _ => ⟨rfl, rfl⟩) fun _ => rfl, hopening]
  cases argv text job.shell job.recipe job.positional with
  | none => rfl
  | some words => rfl

/-- The turns of lines announce these lines. -/
theorem announcedLines_turns (hannounce : job.announce = true) (n : Nat) (ls : List Text) :
    announcedLines (job.turns s n ls) = List.range' n ls.length := by
  induction ls generalizing n with
  | nil => rfl
  | cons text more ih =>
      rw [turns_cons, announcedLines_append, announcedLines_turn hannounce, ih]
      rfl

/-! ## Dry runs -/

/-- The announcements and prints of lines, the first of which has number `n`. -/
def openings (job : Job) (s : Schedule) (n : Nat) (ls : List Text) : List Event :=
  (ls.zipIdx n).flatMap fun (text, i) => job.opening (job.heard s i) i text

theorem openings_cons (job : Job) (s : Schedule) (n : Nat) (text : Text) (ls : List Text) :
    job.openings s n (text :: ls) = job.opening (job.heard s n) n text ++ job.openings s (n + 1) ls := by
  unfold openings
  rw [List.zipIdx_cons, List.flatMap_cons]

theorem announcedLines_openings (hannounce : job.announce = true) (n : Nat) (ls : List Text) :
    announcedLines (job.openings s n ls) = List.range' n ls.length := by
  induction ls generalizing n with
  | nil => rfl
  | cons text more ih =>
      rw [openings_cons, announcedLines_append, announcedLines_opening hannounce, ih]
      rfl

/-- A dry run announces all its lines and returns when no signal is received before its last line;
otherwise it ends behind the first line at which one is, with a fault of the next line. -/
theorem runFrom_dryRun (hdry : job.dryRun = true) (n : Nat) (children : List Child)
    (ls : List Text) :
    (job.runFrom s.announced n none children ls = (job.openings s n ls, none) ∧
      ∀ i, n ≤ i → i + 1 < n + ls.length → job.heard s i = []) ∨
    ∃ k signal, k + 1 < ls.length ∧ signal ∈ job.heard s (n + k) ∧
      job.runFrom s.announced n none children ls = (job.openings s n (ls.take (k + 1)),
        some (.fault (.killed job.recipe (n + k + 1) signal.number))) := by
  -- Along the lines; what the first one hears is found where the next one begins, if there is one.
  induction ls generalizing n with
  | nil => exact Or.inl ⟨rfl, fun i hi hlt => absurd hi (by simp at hlt; omega)⟩
  | cons text more ih =>
      have hrun : job.runFrom s.announced n none children (text :: more) =
          (job.opening (job.heard s n) n text ++
            (job.runFrom s.announced (n + 1) (job.heard s n).head? children more).1,
          (job.runFrom s.announced (n + 1) (job.heard s n).head? children more).2) := by
        rw [runFrom, hdry]
        rfl
      rw [hrun, openings_cons, List.length_cons]
      cases hheard : job.heard s n with
      | nil =>
          rcases ih (n + 1) with ⟨hall, hquiet⟩ | ⟨k, signal, hk, hmem, hstop⟩
          · refine Or.inl ⟨?_, fun i hi hlt => ?_⟩
            · rw [List.head?_nil, hall]
            · by_cases hin : i = n
              · rw [hin, hheard]
              · exact hquiet i (by omega) (by omega)
          · refine Or.inr ⟨k + 1, signal, by omega, ?_, ?_⟩
            · rwa [show n + (k + 1) = n + 1 + k by omega]
            · rw [List.head?_nil, hstop, List.take_succ_cons, openings_cons, hheard,
                show n + (k + 1) + 1 = n + 1 + k + 1 by omega]
      | cons signal others =>
          cases more with
          | nil => exact Or.inl ⟨rfl, fun i hi hlt => by simp at hlt; omega⟩
          | cons next more =>
              refine Or.inr ⟨0, signal, by simp, by simp [hheard], ?_⟩
              rw [List.take_succ_cons, List.take_zero, openings_cons, hheard]
              rfl

/-! ## Executions -/

/-- How an execution stops that has announced `k` lines. -/
inductive StopsAfter (job : Job) (s : Schedule) (k : Nat) : Stop → Prop where
  | fault {fault : RunFault} (hdry : job.dryRun = false) (hline : fault.line? = some k)
      (hcode : fault.exitCode ≠ 0) : StopsAfter job s k (.fault fault)
  | refused {refusal : Refusal} (hdry : job.dryRun = false)
      (hfirst : job.FirstStop s job.lines.length k) (hfate : (s.child k).fate = .refused refusal) :
      StopsAfter job s k (.refused refusal)
  | signalled {signal : Signal} (hdry : job.dryRun = true) (hlt : k < job.lines.length)
      (hsignal : signal ∈ job.heard s k) :
      StopsAfter job s k (.fault (.killed job.recipe (k + 1) signal.number))

theorem StopsAfter.isExecution {k : Nat} {fault : RunFault} (h : job.StopsAfter s k (.fault fault)) :
    fault.isExecution = true ∧ fault.exitCode ≠ 0 := by
  unfold RunFault.isExecution
  cases h with
  | fault hdry hline hcode =>
      rw [hline]
      exact ⟨rfl, hcode⟩
  | signalled hdry hlt hsignal =>
      refine ⟨rfl, ?_⟩
      show (128 + (_ : Int)) ≠ 0
      omega

/-- A process that is refused in the first turn that there is a reason to stop at ends the
execution. -/
theorem execute_of_refused {k : Nat} {refusal : Refusal} (hdry : job.dryRun = false)
    (hwords : job.HasWords) (hfirst : job.FirstStop s job.lines.length k)
    (hfate : (s.child k).fate = .refused refusal) : (job.execute s).2 = some (.refused refusal) := by
  rcases execute_outcome hdry s with ⟨hall, _⟩ | ⟨j, stop, text, hother, hstop, hrun⟩
  · exact absurd hfirst.stops (hall k hfirst.pos hfirst.le)
  · rw [hother.eq hfirst] at hstop
    rw [hrun]
    rcases reports_of_ending hstop with
      ⟨fault, code, _, hreports⟩ | ⟨other, rfl, hrefused⟩ | ⟨_, hlacks⟩
    · exact absurd hfate hreports.not_refused
    · rw [hfate] at hrefused
      cases hrefused
      rfl
    · rcases hlacks.needed with hno | ⟨reason, hreason⟩
      · exact absurd hwords hno
      · rw [hfate] at hreason
        cases hreason

/-- **An execution stops at the line that it has reached.** The lines are announced from the first to
the `k`-th. Where the execution stops, it is with a fault of the `k`-th line, the status of which is not
zero, or because the process of this line is refused; in a dry run it is with a signal that has arrived
while this line was announced, and the fault is one of the next line. -/
theorem execute_reached (hannounce : job.announce = true) (hshell : job.shell ≠ []) (s : Schedule) :
    ∃ k, k ≤ job.lines.length ∧ announcedLines (job.execute s).1 = List.range' 1 k ∧
      ∀ stop, (job.execute s).2 = some stop → 1 ≤ k ∧ job.StopsAfter s k stop := by
  cases hdry : job.dryRun with
  | true =>
      unfold execute
      rcases runFrom_dryRun (s := s) hdry 1 s.children job.lines with
        ⟨hrun, _⟩ | ⟨k, signal, hk, hmem, hrun⟩
      · rw [hrun]
        exact ⟨_, Nat.le_refl _, announcedLines_openings hannounce 1 _, fun stop h => by cases h⟩
      · rw [hrun]
        refine ⟨k + 1, by omega, ?_, ?_⟩
        · rw [announcedLines_openings hannounce, List.length_take_of_le (by omega)]
        · rintro _ ⟨⟩
          rw [Nat.add_comm 1 k] at hmem ⊢
          exact ⟨by omega, .signalled hdry hk hmem⟩
  | false =>
      rcases execute_outcome hdry s with ⟨_, hrun⟩ | ⟨k, stop, text, hfirst, hstop, hrun⟩
      · rw [hrun]
        exact ⟨_, Nat.le_refl _, announcedLines_turns hannounce 1 _, fun stop h => by cases h⟩
      · rw [hrun, announcedLines_turns hannounce, List.length_take_of_le hfirst.le]
        refine ⟨k, hfirst.le, rfl, ?_⟩
        rintro _ ⟨⟩
        refine ⟨hfirst.pos, ?_⟩
        rcases reports_of_ending hstop with
          ⟨fault, code, rfl, hreports⟩ | ⟨refusal, rfl, hfate⟩ | ⟨_, hlacks⟩
        · obtain ⟨hline, hcode⟩ := hreports.line_exitCode
          exact .fault hdry hline (by rw [hcode]; exact hreports.code_ne_zero)
        · exact .refused hdry hfirst hfate
        · exact absurd hlacks.shell hshell

end Job

end Runbook
