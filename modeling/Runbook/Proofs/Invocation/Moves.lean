import Runbook.Invocation.Stage
import Mathlib.Tactic

set_option autoImplicit false

/-! # Trackers only move forward

A tracker accepts a move if its invocation has not ended and the stage of the move lies ahead, or if
the move is from one line of the execution to a later one. Moves that are tried one after the other
therefore lead through stages of growing order, with the refused ones in between leaving no trace, and
nothing is accepted behind an end.
-/

namespace Runbook

namespace Stage

/-- Whether a stage stands before another one in the order of the stages. -/
def Precedes (s u : Stage) : Prop := all.idxOf s < all.idxOf u

instance (s u : Stage) : Decidable (s.Precedes u) :=
  inferInstanceAs (Decidable (all.idxOf s < all.idxOf u))

theorem rank_eq_idxOf (s : Stage) : s.rank = all.idxOf s := by
  cases s <;> rfl

theorem precedes_iff {s u : Stage} : s.Precedes u ↔ s.rank < u.rank := by
  rw [rank_eq_idxOf, rank_eq_idxOf]
  rfl

theorem Precedes.trans {s u v : Stage} (h : s.Precedes u) (h' : u.Precedes v) : s.Precedes v :=
  Nat.lt_trans h h'

theorem isFinal_iff {s : Stage} : s.isFinal = true ↔ completed.rank ≤ s.rank := by
  cases s <;> decide

/-- The ends of an invocation stand behind all other stages. -/
theorem precedes_of_isFinal {s u : Stage} (hs : s.isFinal = false) (hu : u.isFinal = true) :
    s.Precedes u := by
  have hlt : s.rank < completed.rank := by
    refine Nat.lt_of_not_le fun hle => ?_
    rw [isFinal_iff.mpr hle] at hs
    cases hs
  exact precedes_iff.mpr (Nat.lt_of_lt_of_le hlt (isFinal_iff.mp hu))

end Stage

namespace Tracker

/-! ## One move -/

/-- Whether a move is one from the execution of a line to that of a later line. -/
def GoesOn (t : Tracker) (stage : Stage) (line : Option Int) : Prop :=
  t.stage = .executing ∧ stage = .executing ∧
    ∃ last next, t.line = some last ∧ line = some next ∧ last < next

/-- Whether a move leads forward from where a tracker is. -/
def Allows (t : Tracker) (stage : Stage) (line : Option Int) : Prop :=
  t.stage.isFinal = false ∧ (t.stage.Precedes stage ∨ t.GoesOn stage line)

/-- Whether a tracker stands at an earlier place of an invocation than another one. -/
def Before (t u : Tracker) : Prop := t.stage.Precedes u.stage ∨ t.GoesOn u.stage u.line

variable {t u v : Tracker} {stage : Stage} {line : Option Int}

theorem isLater_iff {last next : Option Int} :
    isLater last next = true ↔ ∃ n k, last = some n ∧ next = some k ∧ n < k := by
  cases last with
  | none => simp [isLater]
  | some n =>
      cases next with
      | none => simp [isLater]
      | some k => simp [isLater]

theorem fault?_eq_none_iff : t.fault? stage line = none ↔ t.Allows stage line := by
  unfold fault? Allows
  by_cases hexecuting : stage = .executing ∧ t.stage = .executing
  · -- The order of the stages is not looked at while the execution goes on.
    obtain ⟨rfl, ht⟩ := hexecuting
    have hfinal : t.stage.isFinal = false := by rw [ht]; rfl
    have hnot : ¬ t.stage.Precedes .executing := by rw [ht]; decide
    have hgoes : t.GoesOn .executing line ↔ isLater t.line line = true := by
      rw [isLater_iff]
      exact ⟨fun h => h.2.2, fun h => ⟨ht, rfl, h⟩⟩
    rw [if_pos (by simp [ht]), or_iff_right hnot, hgoes]
    simp [hfinal]
  · have hnot : ¬ t.GoesOn stage line := fun h => hexecuting ⟨h.2.1, h.1⟩
    rw [if_neg (by simpa using hexecuting), or_iff_left hnot]
    by_cases hfailed : stage = .failed
    · -- A failure lies ahead of every stage that is not final.
      subst hfailed
      rw [if_neg (by simp)]
      cases hfinal : t.stage.isFinal with
      | true => simp
      | false =>
          have hahead : t.stage.Precedes .failed := Stage.precedes_of_isFinal hfinal rfl
          simp [hahead]
    · rw [Stage.precedes_iff]
      by_cases hrank : stage.rank ≤ t.stage.rank
      · rw [if_pos (by simp [hfailed, hrank])]
        simp [hrank]
      · rw [if_neg (by simp [hrank])]
        simp [Nat.lt_of_not_le hrank]

/-- A move is accepted if and only if it leads forward, and then it is made. A line that is not given
stays as it is. -/
theorem advance_eq_ok_iff :
    t.advance stage line = .ok u ↔ t.Allows stage line ∧ u = ⟨stage, line <|> t.line⟩ := by
  rw [← fault?_eq_none_iff, advance]
  cases t.fault? stage line with
  | none => simp [eq_comm]
  | some fault => simp

theorem before_of_allows (h : t.Allows stage line) : t.Before ⟨stage, line <|> t.line⟩ := by
  rcases h.2 with hstage | ⟨ht, hm, last, next, hlast, hnext, hlt⟩
  · exact Or.inl hstage
  · refine Or.inr ⟨ht, hm, last, next, hlast, ?_, hlt⟩
    rw [hnext]
    rfl

theorem Before.trans (h : t.Before u) (h' : u.Before v) : t.Before v := by
  rcases h with h | ⟨ht, hu, last, line, hlast, hline, hlt⟩
  · rcases h' with h' | ⟨hu, hv, -⟩
    · exact Or.inl (h.trans h')
    · rw [hu, ← hv] at h
      exact Or.inl h
  · rcases h' with h' | ⟨-, hv, line', next, hline', hnext, hlt'⟩
    · rw [hu, ← ht] at h'
      exact Or.inl h'
    · rw [hline] at hline'
      cases hline'
      exact Or.inr ⟨ht, hv, last, next, hlast, hnext, lt_trans hlt hlt'⟩

/-! ## Moves one after the other -/

/-- A move that is asked of a tracker: to a stage and, if one is given, to a line. -/
structure Move where
  stage : Stage
  line : Option Int
  deriving DecidableEq, Repr

/-- A move that is tried where a tracker stands. -/
structure Attempt where
  before : Tracker
  move : Move
  deriving DecidableEq, Repr

/-- The answer to an attempt. -/
def Attempt.answer (a : Attempt) : Except MoveFault Tracker :=
  a.before.advance a.move.stage a.move.line

/-- The tracker after an attempt: a move that is refused leaves it as it was. -/
def Attempt.after (a : Attempt) : Tracker :=
  match a.answer with
  | .ok t => t
  | .error _ => a.before

/-- Whether the move of an attempt is accepted. -/
def Attempt.isAccepted (a : Attempt) : Bool := a.answer.isOk

/-- The attempts at moves, one after the other. -/
def attempts (t : Tracker) : List Move → List Attempt
  | [] => []
  | m :: more =>
      let a : Attempt := ⟨t, m⟩
      a :: a.after.attempts more

/-- Whether the attempts at some moves lead forward only. -/
structure LeadsForward (moves : List Move) (run : List Attempt) : Prop where
  /-- All moves are tried, in their order. -/
  tried : run.map (·.move) = moves
  /-- Each is tried where the one before has left the tracker, the first at the beginning. -/
  linked : run.map (·.before) <+: ({} : Tracker) :: run.map (·.after)
  /-- A move is made, and its line recorded if there is one, or it is refused without effect. -/
  settled : ∀ a ∈ run,
    (∃ t, a.answer = .ok t ∧ a.after = t ∧ t.stage = a.move.stage ∧
      t.line = (a.move.line <|> a.before.line)) ∨
    ∃ fault, a.answer = .error fault ∧ a.after = a.before
  /-- What leads forward is accepted, and nothing else. -/
  accepted_iff : ∀ a ∈ run, a.isAccepted = true ↔ a.before.Allows a.move.stage a.move.line
  /-- The places that are reached lie one behind the other. -/
  ascending : (({} : Tracker) :: (run.filter (·.isAccepted)).map (·.after)).Pairwise Before
  /-- The execution is entered again for a line that is given, and later than the recorded one. -/
  goesOn : ∀ a ∈ run, a.isAccepted = true → a.before.stage = .executing →
    a.move.stage = .executing → a.before.GoesOn a.move.stage a.move.line
  /-- Behind an end nothing is accepted. -/
  ended : run.Pairwise fun a b => a.after.stage.isFinal = true → b.isAccepted = false
  /-- To fail is accepted everywhere else. -/
  mayFail : ∀ a ∈ run, a.before.stage.isFinal = false → a.move.stage = .failed →
    a.isAccepted = true

variable {a : Attempt} {moves : List Move}

theorem isAccepted_iff_allows :
    a.isAccepted = true ↔ a.before.Allows a.move.stage a.move.line := by
  rw [← fault?_eq_none_iff, Attempt.isAccepted, Attempt.answer, advance]
  cases a.before.fault? a.move.stage a.move.line with
  | none => simp [Except.isOk, Except.toBool]
  | some fault => simp [Except.isOk, Except.toBool]

theorem after_of_ok (h : a.answer = .ok t) : a.after = t := by
  unfold Attempt.after
  rw [h]

theorem after_of_error {fault : MoveFault} (h : a.answer = .error fault) : a.after = a.before := by
  unfold Attempt.after
  rw [h]

theorem after_of_allows (h : a.before.Allows a.move.stage a.move.line) :
    a.after = ⟨a.move.stage, a.move.line <|> a.before.line⟩ :=
  after_of_ok (advance_eq_ok_iff.mpr ⟨h, rfl⟩)

theorem after_of_not_isAccepted (h : a.isAccepted = false) : a.after = a.before := by
  cases hanswer : a.answer with
  | ok t =>
      rw [Attempt.isAccepted, hanswer] at h
      cases h
  | error fault => exact after_of_error hanswer

theorem map_move_attempts : (t.attempts moves).map (·.move) = moves := by
  induction moves generalizing t with
  | nil => rfl
  | cons m more ih => rw [attempts, List.map_cons, ih]

theorem map_before_attempts :
    (t.attempts moves).map (·.before) <+: t :: (t.attempts moves).map (·.after) := by
  induction moves generalizing t with
  | nil => exact List.nil_prefix
  | cons m more ih =>
      rw [attempts, List.map_cons, List.map_cons, List.prefix_cons_inj]
      exact ih

/-- Each tracker that is reached lies behind the one before, and so behind all that have been. -/
theorem ascending_attempts :
    (t :: ((t.attempts moves).filter (·.isAccepted)).map (·.after)).Pairwise Before := by
  induction moves generalizing t with
  | nil => exact List.pairwise_singleton _ _
  | cons m more ih =>
      rw [attempts]
      set a : Attempt := ⟨t, m⟩
      by_cases haccepted : a.isAccepted = true
      · rw [List.filter_cons_of_pos haccepted, List.map_cons]
        have hallows : t.Allows m.stage m.line := isAccepted_iff_allows.mp haccepted
        have hstep : t.Before a.after := by
          rw [after_of_allows hallows]
          exact before_of_allows hallows
        refine List.pairwise_cons.mpr ⟨?_, ih⟩
        intro u hu
        rcases List.mem_cons.mp hu with rfl | hu
        · exact hstep
        · exact hstep.trans ((List.pairwise_cons.mp ih).1 u hu)
      · rw [List.filter_cons_of_neg haccepted]
        have hafter : a.after = t := after_of_not_isAccepted (Bool.eq_false_iff.mpr haccepted)
        rw [hafter]
        exact ih

theorem not_isAccepted_of_final (ht : t.stage.isFinal = true) (h : a ∈ t.attempts moves) :
    a.isAccepted = false := by
  induction moves generalizing t with
  | nil => cases h
  | cons m more ih =>
      have hrefused : Attempt.isAccepted ⟨t, m⟩ = false := by
        rw [Bool.eq_false_iff, ne_eq, isAccepted_iff_allows]
        exact fun hallows => absurd (ht.symm.trans hallows.1) (by decide)
      rw [attempts] at h
      rcases List.mem_cons.mp h with rfl | h
      · exact hrefused
      · rw [after_of_not_isAccepted hrefused] at h
        exact ih ht h

theorem ended_attempts :
    (t.attempts moves).Pairwise fun a b =>
      a.after.stage.isFinal = true → b.isAccepted = false := by
  induction moves generalizing t with
  | nil => exact List.Pairwise.nil
  | cons m more ih =>
      rw [attempts]
      exact List.pairwise_cons.mpr ⟨fun b hb hfinal => not_isAccepted_of_final hfinal hb, ih⟩

/-- **An invocation only moves forward.** Whatever moves are tried, one after the other, from the
beginning: each is made or is refused without effect; the stages that are reached strictly ascend, but
that the execution may follow the execution for a given line after the recorded one; behind an end
nothing is accepted, and before it an invocation may always fail. -/
theorem attempts_lead_forward (moves : List Move) :
    LeadsForward moves (({} : Tracker).attempts moves) where
  tried := map_move_attempts
  linked := map_before_attempts
  settled := by
    intro a _
    cases hanswer : a.answer with
    | ok t =>
        obtain ⟨-, ht⟩ := advance_eq_ok_iff.mp hanswer
        exact Or.inl ⟨t, rfl, after_of_ok hanswer, by rw [ht], by rw [ht]⟩
    | error fault => exact Or.inr ⟨fault, rfl, after_of_error hanswer⟩
  accepted_iff := fun a _ => isAccepted_iff_allows
  ascending := ascending_attempts
  goesOn := by
    intro a _ haccepted hbefore hmove
    refine (isAccepted_iff_allows.mp haccepted).2.resolve_left ?_
    rw [hbefore, hmove]
    exact Nat.lt_irrefl _
  ended := ended_attempts
  mayFail := by
    intro a _ hfinal hmove
    rw [isAccepted_iff_allows]
    exact ⟨hfinal, Or.inl (Stage.precedes_of_isFinal hfinal (by rw [hmove]; rfl))⟩

/-- Refused moves among accepted ones. The line that is recorded while the recipe is bound counts for
the execution, which is entered without one; a line that is not later is refused, and so is a failure
behind the end. -/
example :
    (({} : Tracker).attempts [⟨.binding, some 4⟩, ⟨.resolving, none⟩, ⟨.executing, none⟩,
        ⟨.executing, none⟩, ⟨.executing, some 4⟩, ⟨.executing, some 5⟩, ⟨.completed, none⟩,
        ⟨.failed, none⟩]).map (·.isAccepted) =
      [true, false, true, false, false, true, true, false] := by
  decide

end Tracker

end Runbook
