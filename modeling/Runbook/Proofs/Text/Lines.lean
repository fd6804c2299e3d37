import Runbook.Text.Basic
import Mathlib.Tactic

set_option autoImplicit false

/-! # The lines of a text

Cutting a text into lines undoes joining lines, up to an empty line at the very end. No line holds
a break. Texts with an empty line between them are cut one by one.
-/

namespace Runbook.Text

/-- Whether a text holds no line break. -/
def IsLine (t : Text) : Prop := ∀ c ∈ t, isBreak c = false

instance (t : Text) : Decidable (IsLine t) :=
  decidable_of_iff ((t.all fun c => !isBreak c) = true) (by simp [IsLine])

theorem isLine_nil : IsLine [] := by
  intro c hc
  cases hc

theorem isLine_cons {c : Char} {t : Text} (hc : isBreak c = false) (ht : IsLine t) :
    IsLine (c :: t) := by
  intro d hd
  rcases List.mem_cons.mp hd with rfl | hd
  · exact hc
  · exact ht d hd

theorem isLine_append {t u : Text} (ht : IsLine t) (hu : IsLine u) : IsLine (t ++ u) := by
  intro c hc
  rcases List.mem_append.mp hc with hc | hc
  · exact ht c hc
  · exact hu c hc

theorem isLine_flatMap {α : Type} {l : List α} {f : α → Text} (h : ∀ x ∈ l, IsLine (f x)) :
    IsLine (l.flatMap f) := by
  intro c hc
  obtain ⟨x, hx, hc⟩ := List.mem_flatMap.mp hc
  exact h x hx c hc

/-- No line holds a break. -/
theorem isLine_of_mem_lines {t : Text} : ∀ line ∈ lines t, IsLine line := by
  fun_induction lines t with
  | case1 =>
      intro line h
      cases h
  | case2 rest ih =>
      intro line h
      rcases List.mem_cons.mp h with rfl | h
      · exact isLine_nil
      · exact ih line h
  | case3 c rest hcr hbreak ih =>
      intro line h
      rcases List.mem_cons.mp h with rfl | h
      · exact isLine_nil
      · exact ih line h
  | case4 c rest hcr hbreak hnil ih =>
      intro line h
      rw [List.mem_singleton] at h
      rw [h]
      exact isLine_cons (by simpa using hbreak) isLine_nil
  | case5 c rest hcr hbreak first more hcons ih =>
      intro line h
      rw [hcons] at ih
      rcases List.mem_cons.mp h with rfl | h
      · exact isLine_cons (by simpa using hbreak) (ih first (by simp))
      · exact ih line (by simp [h])

/-- A text without breaks is one line, unless it is empty. -/
theorem lines_of_isLine {t : Text} (h : IsLine t) : lines t = if t = [] then [] else [t] := by
  induction t with
  | nil => rfl
  | cons c t ih =>
      rw [lines_cons (h c (by simp)), ih fun d hd => h d (by simp [hd])]
      by_cases ht : t = []
      · simp [ht]
      · simp [ht]

/-- Lines ended by line feeds are read back, and what follows them is read by itself. -/
theorem lines_terminated_append {ls : List Text} (h : ∀ line ∈ ls, IsLine line) (rest : Text) :
    lines (terminated ls ++ rest) = ls ++ lines rest := by
  induction ls with
  | nil => rfl
  | cons line ls ih =>
      have hcut : terminated (line :: ls) ++ rest = line ++ '\n' :: (terminated ls ++ rest) := by
        simp [terminated]
      rw [hcut, lines_append_newline (h line (by simp)), ih fun l hl => h l (by simp [hl])]
      rfl

/-- Joined lines end with the last of them. -/
theorem unlines_concat (ls : List Text) (last : Text) :
    unlines (ls ++ [last]) = terminated ls ++ last := by
  induction ls with
  | nil => simp [unlines, terminated]
  | cons line ls ih =>
      have hne : ls ++ [last] ≠ [] := by simp
      have hstep : unlines (line :: (ls ++ [last])) = line ++ '\n' :: unlines (ls ++ [last]) := by
        unfold unlines
        rw [List.intercalate_cons_of_ne_nil hne]
        simp
      rw [List.cons_append, hstep, ih]
      simp [terminated]

/-- **Joined lines are read back**, but for an empty line at the very end. -/
theorem lines_unlines {ls : List Text} (h : ∀ line ∈ ls, IsLine line) :
    lines (unlines ls) = ls ∨ ls = lines (unlines ls) ++ [[]] := by
  induction ls using List.reverseRecOn with
  | nil => exact Or.inl rfl
  | append_singleton ls last _ =>
      have hls : ∀ line ∈ ls, IsLine line := fun l hl => h l (by simp [hl])
      rw [unlines_concat, lines_terminated_append hls, lines_of_isLine (h last (by simp))]
      by_cases hlast : last = []
      · rw [if_pos hlast, hlast, List.append_nil]
        exact Or.inr rfl
      · rw [if_neg hlast]
        exact Or.inl rfl

/-! ## Texts put together -/

/-- A break that is no carriage return before a line feed ends a line by itself. -/
theorem lines_of_isBreak {c : Char} (h : isBreak c = true) {t : Text}
    (hfeed : c = '\r' → ∀ rest, t ≠ '\n' :: rest) : lines (c :: t) = [] :: lines t := by
  rw [lines.eq_def]
  split
  · next heq => cases heq
  · next heq =>
      obtain ⟨rfl, rfl⟩ := List.cons.inj heq
      exact absurd rfl (hfeed rfl _)
  · next heq =>
      obtain ⟨rfl, rfl⟩ := List.cons.inj heq
      rw [if_pos h]

theorem lines_newline (t : Text) : lines ('\n' :: t) = [] :: lines t :=
  lines_of_isBreak rfl (by rintro ⟨⟩)

theorem lines_ne_nil {t : Text} (h : t ≠ []) : lines t ≠ [] := by
  fun_cases lines t with
  | case1 => exact absurd rfl h
  | case2 rest => simp
  | case3 c rest hcr hbreak => simp
  | case4 c rest hcr hbreak hnil => simp
  | case5 c rest hcr hbreak first more hcons => simp

/-- A line feed behind a text ends its last line, or adds an empty one where that is ended already;
what follows is read by itself. -/
theorem exists_lines_append_newline (t : Text) :
    ∃ gap, (gap = [] ∨ gap = [[]]) ∧
      ∀ rest, lines (t ++ '\n' :: rest) = lines t ++ gap ++ lines rest := by
  fun_induction lines t with
  | case1 => exact ⟨[[]], Or.inr rfl, fun rest => lines_newline rest⟩
  | case2 t ih =>
      obtain ⟨gap, hgap, hlines⟩ := ih
      refine ⟨gap, hgap, fun rest => ?_⟩
      rw [List.cons_append, List.cons_append, lines, hlines]
      rfl
  | case3 c t hcr hbreak ih =>
      by_cases hreturn : c = '\r' ∧ t = []
      · obtain ⟨rfl, rfl⟩ := hreturn
        exact ⟨[], Or.inl rfl, fun rest => by rw [List.singleton_append, lines]; rfl⟩
      · obtain ⟨gap, hgap, hlines⟩ := ih
        refine ⟨gap, hgap, fun rest => ?_⟩
        have hfeed : c = '\r' → ∀ more, t ++ '\n' :: rest ≠ '\n' :: more := by
          rintro rfl more heq
          cases t with
          | nil => exact hreturn ⟨rfl, rfl⟩
          | cons d t =>
              obtain ⟨rfl, _⟩ := List.cons.inj heq
              exact hcr t rfl rfl
        rw [List.cons_append, lines_of_isBreak hbreak hfeed, hlines]
        rfl
  | case4 c t hcr hbreak hnil ih =>
      have ht : t = [] := by
        by_contra hne
        exact lines_ne_nil hne hnil
      rw [ht]
      refine ⟨[], Or.inl rfl, fun rest => ?_⟩
      rw [List.singleton_append, lines_cons (by simpa using hbreak), lines_newline]
      rfl
  | case5 c t hcr hbreak first more hcons ih =>
      obtain ⟨gap, hgap, hlines⟩ := ih
      refine ⟨gap, hgap, fun rest => ?_⟩
      rw [List.cons_append, lines_cons (by simpa using hbreak), hlines, hcons]
      rfl

/-- Two line feeds between texts keep their lines apart by one empty line or two. -/
theorem exists_lines_append_blank (t : Text) :
    ∃ gap, gap ≠ [] ∧ (∀ line ∈ gap, line = []) ∧
      lines (t ++ ['\n', '\n']) = lines t ++ gap ∧
      ∀ rest, lines (t ++ '\n' :: '\n' :: rest) = lines t ++ gap ++ lines rest := by
  obtain ⟨gap, hgap, hlines⟩ := exists_lines_append_newline t
  refine ⟨gap ++ [[]], by simp, ?_, ?_, fun rest => ?_⟩
  · rcases hgap with rfl | rfl
    · simp
    · simp
  · rw [hlines, lines_newline, List.append_assoc]
    rfl
  · rw [hlines, lines_newline]
    simp

/-! ## Line ends -/

/-- Folding line ends to line feeds leaves the lines alone: a carriage return ends the same line, alone
or with the line feed behind it, and every other break stays. -/
theorem lines_foldLineEnds (t : Text) : lines (foldLineEnds t) = lines t := by
  fun_induction foldLineEnds t with
  | case1 => rfl
  | case2 t ih =>
      rw [lines_newline, ih, lines]
  | case3 c t hfeed ih =>
      by_cases hreturn : c = '\r'
      · have halone : c = '\r' → ∀ rest, t ≠ '\n' :: rest := by
          intro hc rest hrest
          exact hfeed rest hc hrest
        rw [if_pos (by simpa using hreturn), lines_newline, ih,
          lines_of_isBreak (by rw [hreturn]; rfl) halone]
      · rw [if_neg (by simpa using hreturn)]
        by_cases hbreak : isBreak c = true
        · have hother : ∀ u : Text, c = '\r' → ∀ rest, u ≠ '\n' :: rest := fun _ hc =>
            absurd hc hreturn
          rw [lines_of_isBreak hbreak (hother _), lines_of_isBreak hbreak (hother _), ih]
        · rw [lines_cons (by simpa using hbreak), lines_cons (by simpa using hbreak), ih]

end Runbook.Text
