import Runbook.Text.Basic
import Mathlib.Data.List.TakeWhile
import Mathlib.Tactic

set_option autoImplicit false

/-! # Trimming

What is left of a text that blanks have been cut off. A text is *trimmed* when `trim` leaves it
alone; both of its ends are then no blanks, and blanks put around it are all that `trim` takes
away again.
-/

namespace Runbook.Text

/-! ## Blanks and breaks by number -/

theorem isBlank_iff (c : Char) : isBlank c = true ↔
    c.toNat = 0x20 ∨ (0x09 ≤ c.toNat ∧ c.toNat ≤ 0x0d) ∨ (0x1c ≤ c.toNat ∧ c.toNat ≤ 0x1f) ∨
    c.toNat = 0x85 ∨ c.toNat = 0xa0 ∨ c.toNat = 0x1680 ∨
    (0x2000 ≤ c.toNat ∧ c.toNat ≤ 0x200a) ∨ c.toNat = 0x2028 ∨ c.toNat = 0x2029 ∨
    c.toNat = 0x202f ∨ c.toNat = 0x205f ∨ c.toNat = 0x3000 := by
  simp only [isBlank, Bool.or_eq_true, Bool.and_eq_true, decide_eq_true_eq, beq_iff_eq,
    ← Char.toNat_inj, Char.reduceToNat]
  omega

theorem isBreak_iff (c : Char) : isBreak c = true ↔
    (0x0a ≤ c.toNat ∧ c.toNat ≤ 0x0d) ∨ (0x1c ≤ c.toNat ∧ c.toNat ≤ 0x1e) ∨
    c.toNat = 0x85 ∨ c.toNat = 0x2028 ∨ c.toNat = 0x2029 := by
  simp only [isBreak, Bool.or_eq_true, Bool.and_eq_true, decide_eq_true_eq, beq_iff_eq,
    ← Char.toNat_inj, Char.reduceToNat]
  omega

/-! ## The start -/

/-- Leading blanks are all cut off. -/
theorem trimStart_append_of_blank {b : Text} (hb : ∀ c ∈ b, isBlank c = true) (t : Text) :
    trimStart (b ++ t) = trimStart t := by
  induction b with
  | nil => rfl
  | cons c b ih =>
      rw [List.cons_append, trimStart_cons, if_pos (hb c (by simp))]
      exact ih fun d hd => hb d (by simp [hd])

/-- What is cut off at the start is blank. -/
theorem exists_append_trimStart (t : Text) :
    ∃ b, (∀ c ∈ b, isBlank c = true) ∧ t = b ++ trimStart t := by
  refine ⟨t.takeWhile isBlank, fun c hc => ?_, ?_⟩
  · exact List.mem_takeWhile_imp hc
  · exact List.takeWhile_append_dropWhile.symm

/-- What follows a text stays, as long as something of the text is left. -/
theorem trimStart_append {t : Text} (h : trimStart t ≠ []) (u : Text) :
    trimStart (t ++ u) = trimStart t ++ u := by
  unfold trimStart at h ⊢
  rw [List.dropWhile_append, if_neg (by simpa using h)]

theorem trimStart_of_head {c : Char} (h : isBlank c = false) (t : Text) :
    trimStart (c :: t) = c :: t := by
  rw [trimStart_cons, h]
  rfl

/-! ## The end -/

@[simp] theorem trimEnd_concat (t : Text) (c : Char) :
    trimEnd (t ++ [c]) = if isBlank c then trimEnd t else t ++ [c] := by
  unfold trimEnd
  rw [List.reverse_append, List.reverse_singleton, List.singleton_append, List.dropWhile_cons]
  split
  · rfl
  · simp

theorem length_trimEnd_le (t : Text) : (trimEnd t).length ≤ t.length := by
  have h := length_trimStart_le t.reverse
  rw [List.length_reverse] at h
  unfold trimEnd
  rw [List.length_reverse]
  exact h

/-- Trailing blanks are all cut off. -/
theorem trimEnd_append_of_blank (t : Text) {b : Text} (hb : ∀ c ∈ b, isBlank c = true) :
    trimEnd (t ++ b) = trimEnd t := by
  unfold trimEnd
  have h := trimStart_append_of_blank (b := b.reverse) (fun c hc => hb c (by simpa using hc))
    t.reverse
  unfold trimStart at h
  rw [List.reverse_append, h]

/-- The end is cut off a text behind another one, as long as something of it is left. -/
theorem trimEnd_append {t u : Text} (h : trimEnd u ≠ []) : trimEnd (t ++ u) = t ++ trimEnd u := by
  induction u using List.reverseRecOn with
  | nil => exact absurd trimEnd_nil h
  | append_singleton u c ih =>
      rw [trimEnd_concat] at h ⊢
      rw [← List.append_assoc, trimEnd_concat]
      split
      · next hc =>
          rw [if_pos hc] at h
          exact ih h
      · rw [List.append_assoc]

theorem trimEnd_eq_nil_iff (t : Text) : trimEnd t = [] ↔ ∀ c ∈ t, isBlank c = true := by
  constructor
  · intro h c hc
    unfold trimEnd at h
    rw [List.reverse_eq_nil_iff, List.dropWhile_eq_nil_iff] at h
    exact h c (List.mem_reverse.mpr hc)
  · intro h
    have := trimEnd_append_of_blank [] h
    simpa using this

/-- A text that ends in no blank keeps its end. -/
theorem trimEnd_of_last (t : Text) {c : Char} (h : isBlank c = false) :
    trimEnd (t ++ [c]) = t ++ [c] := by
  rw [trimEnd_concat, h]
  rfl

/-- The end that is left is no blank. -/
theorem exists_trimEnd_eq_concat {t : Text} (h : trimEnd t ≠ []) :
    ∃ u c, trimEnd t = u ++ [c] ∧ isBlank c = false := by
  induction t using List.reverseRecOn with
  | nil => exact absurd trimEnd_nil h
  | append_singleton t c ih =>
      rw [trimEnd_concat] at h ⊢
      split
      · next hc =>
          rw [if_pos hc] at h
          exact ih h
      · next hc => exact ⟨t, c, rfl, by simpa using hc⟩

/-- Cutting the end off never changes the text before it. -/
theorem exists_append_trimEnd (t : Text) :
    ∃ b, (∀ c ∈ b, isBlank c = true) ∧ t = trimEnd t ++ b := by
  obtain ⟨b, hb, ht⟩ := exists_append_trimStart t.reverse
  refine ⟨b.reverse, fun c hc => hb c (by simpa using hc), ?_⟩
  have := congrArg List.reverse ht
  rw [List.reverse_reverse, List.reverse_append] at this
  exact this

@[simp] theorem trimEnd_trimEnd (t : Text) : trimEnd (trimEnd t) = trimEnd t := by
  by_cases h : trimEnd t = []
  · rw [h]
    rfl
  · obtain ⟨u, c, hu, hc⟩ := exists_trimEnd_eq_concat h
    rw [hu]
    exact trimEnd_of_last u hc

/-- A character that is no blank stays, with what is left of the text behind it. -/
theorem trimEnd_cons {c : Char} (h : isBlank c = false) (t : Text) :
    trimEnd (c :: t) = c :: trimEnd t := by
  by_cases ht : trimEnd t = []
  · have hb := (trimEnd_eq_nil_iff t).mp ht
    have hcut := trimEnd_append_of_blank [c] hb
    have hone := trimEnd_of_last [] h
    rw [ht]
    rw [List.singleton_append] at hcut
    rw [hcut]
    exact hone
  · exact trimEnd_append (t := [c]) ht

/-! ## Both ends -/

/-- A trimmed text begins with no blank. -/
theorem trimStart_of_trim {t : Text} (h : trim t = t) : trimStart t = t := by
  obtain ⟨b, _, hb⟩ := exists_append_trimStart t
  have h1 := length_trimEnd_le (trimStart t)
  have h2 : (trimEnd (trimStart t)).length = t.length := congrArg List.length h
  have h3 := congrArg List.length hb
  rw [List.length_append] at h3
  have hnil : b = [] := List.eq_nil_of_length_eq_zero (by omega)
  rw [hnil, List.nil_append] at hb
  exact hb.symm

/-- A trimmed text ends in no blank. -/
theorem trimEnd_of_trim {t : Text} (h : trim t = t) : trimEnd t = t := by
  have hs := trimStart_of_trim h
  unfold trim at h
  rw [hs] at h
  exact h

/-- Blanks before a text do not count. -/
theorem trim_append_of_blank {b : Text} (hb : ∀ c ∈ b, isBlank c = true) (t : Text) :
    trim (b ++ t) = trim t := by
  unfold trim
  rw [trimStart_append_of_blank hb]

/-- Blanks behind a text do not count. -/
theorem trim_append_blank (t : Text) {b : Text} (hb : ∀ c ∈ b, isBlank c = true) :
    trim (t ++ b) = trim t := by
  induction t with
  | nil =>
      rw [List.nil_append, trim_nil]
      unfold trim
      rw [← List.append_nil b, trimStart_append_of_blank hb]
      rfl
  | cons c t ih =>
      unfold trim at ih ⊢
      rw [List.cons_append, trimStart_cons, trimStart_cons]
      split
      · exact ih
      · exact trimEnd_append_of_blank (c :: t) hb

@[simp] theorem trim_trimEnd (t : Text) : trim (trimEnd t) = trim t := by
  obtain ⟨b, hb, ht⟩ := exists_append_trimEnd t
  have h := trim_append_blank (trimEnd t) hb
  rw [← ht] at h
  exact h.symm

theorem trim_of_ends {t : Text} (hs : trimStart t = t) (he : trimEnd t = t) : trim t = t := by
  unfold trim
  rw [hs, he]

@[simp] theorem trimEnd_trim (t : Text) : trimEnd (trim t) = trim t :=
  trimEnd_trimEnd (trimStart t)

/-- The start that is left is no blank. -/
theorem isBlank_of_trimStart_eq_cons {c : Char} {t rest : Text} (h : trimStart t = c :: rest) :
    isBlank c = false := by
  have hhead := List.head?_dropWhile_not isBlank t
  rw [← trimStart, h] at hhead
  simpa using hhead

/-- Trimming a second time changes nothing. -/
@[simp] theorem trim_trim (t : Text) : trim (trim t) = trim t := by
  refine trim_of_ends ?_ (trimEnd_trim t)
  unfold trim
  cases ht : trimStart t with
  | nil => rfl
  | cons c rest =>
      have hc := isBlank_of_trimStart_eq_cons ht
      rw [trimEnd_cons hc]
      exact trimStart_of_head hc _

/-- Nothing is left of blanks alone. -/
theorem trim_eq_nil_iff (t : Text) : trim t = [] ↔ ∀ c ∈ t, isBlank c = true := by
  unfold trim
  rw [trimEnd_eq_nil_iff]
  constructor
  · intro h
    obtain ⟨b, hb, ht⟩ := exists_append_trimStart t
    intro c hc
    rw [ht, List.mem_append] at hc
    rcases hc with hc | hc
    · exact hb c hc
    · exact h c hc
  · intro h c hc
    exact h c (List.dropWhile_sublist _ |>.subset hc)

end Runbook.Text
