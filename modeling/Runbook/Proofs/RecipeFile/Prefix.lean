import Runbook.Proofs.RecipeFile.Checked
import Runbook.Proofs.Text.Lines

set_option autoImplicit false

/-! # Where a fault is found

A fault of a recipe file is a matter of its first lines alone: it is reported at the last line of
the shortest beginning of the file that cannot be read, and whatever follows that line changes
nothing. The one fault that is found late is a placeholder that names no parameter. The recipe is
checked when it is completed, but the fault is reported at the line of the placeholder, and a
recipe that ends earlier is completed by the end of the file.

The two halves of the argument are `finish_error_accept`, by which a fault that is due stays due,
and `accept_finish_error_line`, by which a line brings no fault but one that is reported at it.
-/

namespace Runbook

/-! ## The first undeclared placeholder -/

/-- A body that grows keeps its first undeclared placeholder, and one that has none gets it from
its new line. -/
theorem undeclared?_append (r : Recipe) (template : Text) :
    undeclared? { r with body := r.body ++ [template] } =
      (undeclared? r).or (((placeholderNames template).find? fun name =>
        !(r.parameters.any (·.name == name))).map (r.body.length, ·)) := by
  unfold undeclared? Recipe.placeholders
  dsimp only
  rw [List.zipIdx_append, List.flatMap_append, List.find?_append]
  congr 1
  rw [List.zipIdx_singleton, List.flatMap_singleton, List.find?_map]
  simp

theorem undeclared?_place_lt {r : Recipe} {place : Nat} {name : Text}
    (h : undeclared? r = some (place, name)) : place < r.body.length := by
  have hmem := List.mem_of_find?_eq_some h
  obtain ⟨template, hplace, _⟩ := mem_placeholders_iff.mp hmem
  exact (List.getElem?_eq_some_iff.mp hplace).1

namespace Progress

variable {s s' : Progress} {n : Nat} {fault : LoadFault}

/-! ## The numbers of the body's lines -/

/-- Every line of the current body has its number. -/
def Numbered (s : Progress) : Prop :=
  ∀ d, s.draft = some d → d.numbers.length = d.recipe.body.length

theorem numbered_empty : Numbered {} := by
  intro d hd
  cases hd

theorem numbered_of_draft_none (h : s.draft = none) : s.Numbered := by
  intro d hd
  rw [h] at hd
  cases hd

theorem Numbered.accept (hs : s.Numbered) {form : LineForm} (h : s.accept n form = .ok s') :
    s'.Numbered := by
  cases form with
  | blank =>
      cases h
      exact hs
  | remark =>
      obtain ⟨_, rfl⟩ := accept_remark_eq_ok_iff.mp h
      exact hs
  | entry template =>
      obtain ⟨d, hd, rfl⟩ := accept_entry_eq_ok_iff.mp h
      intro d' hd'
      cases hd'
      simp [hs d hd]
  | comment doc =>
      obtain ⟨s₀, h₀, rfl⟩ := accept_comment_eq_ok_iff.mp h
      have hd := draft_of_finish h₀
      exact numbered_of_draft_none hd
  | setting key value =>
      obtain ⟨s₀, settings, h₀, _, _, rfl⟩ := accept_setting_eq_ok_iff.mp h
      have hd := draft_of_finish h₀
      exact numbered_of_draft_none hd
  | header line =>
      obtain ⟨s₀, name, parameters, _, _, _, rfl⟩ := accept_header_eq_ok_iff.mp h
      intro d' hd'
      cases hd'
      rfl

/-! ## A fault that is due stays due -/

/-- If the current recipe cannot be completed, then after a further line it still cannot, for the
same reason, unless the line already brings that fault. -/
theorem finish_error_accept (hs : s.Numbered) (h : s.finish = .error fault) (n : Nat)
    (form : LineForm) :
    (s.accept n form >>= finish) = .error fault := by
  obtain ⟨d, place, name, hd, hu, rfl⟩ := finish_eq_error_iff.mp h
  cases form with
  | blank =>
      show finish { s with doc := none } = _
      exact finish_eq_error_iff.mpr ⟨d, place, name, hd, hu, rfl⟩
  | remark =>
      have hok : s.accept n .remark = .ok s := accept_remark_eq_ok_iff.mpr ⟨⟨d, hd⟩, rfl⟩
      rw [hok, ok_bind]
      exact h
  | entry template =>
      rw [accept_entry_eq_ok_iff.mpr ⟨d, hd, rfl⟩, ok_bind]
      refine finish_eq_error_iff.mpr ⟨_, place, name, rfl, ?_, ?_⟩
      · rw [undeclared?_append, hu]
        rfl
      · have hplace : place < d.numbers.length := hs d hd ▸ undeclared?_place_lt hu
        simp [List.getElem?_append_left hplace]
  | comment doc =>
      show ((s.finish >>= _) >>= _) = _
      rw [h]
      rfl
  | setting key value =>
      show ((s.finish >>= _) >>= _) = _
      rw [h]
      rfl
  | header line =>
      show ((s.finish >>= _) >>= _) = _
      rw [h]
      rfl

/-- Further lines leave a fault that is due as it is. -/
theorem finish_error_readLines (hs : s.Numbered) (h : s.finish = .error fault) (n : Nat)
    (ls : List Text) : (s.readLines n ls >>= finish) = .error fault := by
  induction ls generalizing s n with
  | nil => exact h
  | cons line ls ih =>
      have hstep := finish_error_accept hs h n (LineForm.of line)
      rw [readLines_cons]
      rcases bind_eq_error_iff.mp hstep with hl | ⟨s₁, h₁, hf⟩
      · show ((s.accept n (LineForm.of line) >>= _) >>= _) = _
        rw [hl]
        rfl
      · show ((s.accept n (LineForm.of line) >>= _) >>= _) = _
        rw [h₁, ok_bind]
        exact ih (hs.accept h₁) hf (n + 1)

/-! ## A line brings no fault but its own -/

theorem readBody_error_line {entry : Option Text} (h : s.readBody n entry = .error fault) :
    fault.line = n := by
  unfold readBody at h
  split at h
  · cases h
    rfl
  · cases h
  · cases h

theorem readSet_error_line {key : Text} {value : Option Text}
    (h : s.readSet n key value = .error fault) : fault.line = n := by
  unfold readSet at h
  split at h
  · cases h
    rfl
  · split at h
    · cases h
      rfl
    · cases h

theorem readRecipe_error_line {line : Text} (h : s.readRecipe n line = .error fault) :
    fault.line = n := by
  unfold readRecipe at h
  split at h
  · cases h
    rfl
  · split at h
    · cases h
      rfl
    · cases h

/-- Where the current recipe can be completed before a line and the file cannot be ended after
it, the fault is reported at that line. -/
theorem accept_finish_error_line (hs : s.Numbered) {s₀ : Progress} (h₀ : s.finish = .ok s₀)
    {form : LineForm} (h : (s.accept n form >>= finish) = .error fault) : fault.line = n := by
  -- without a current recipe the file can be ended
  have hdone : ∀ {s₁ : Progress}, s₁.draft = none → s₁.finish ≠ .error fault := by
    intro s₁ hd hf
    rw [finish_of_draft_none hd] at hf
    cases hf
  cases form with
  | blank =>
      have hblank : (s.finish.map fun s' : Progress => { s' with doc := none }) = .error fault := by
        rw [← finish_with_doc]
        exact h
      rw [h₀] at hblank
      cases hblank
  | remark =>
      rcases bind_eq_error_iff.mp h with hl | ⟨s₁, h₁, hf⟩
      · exact readBody_error_line hl
      · obtain ⟨_, rfl⟩ := accept_remark_eq_ok_iff.mp h₁
        rw [h₀] at hf
        cases hf
  | entry template =>
      rcases bind_eq_error_iff.mp h with hl | ⟨s₁, h₁, hf⟩
      · exact readBody_error_line hl
      · obtain ⟨d, hd, rfl⟩ := accept_entry_eq_ok_iff.mp h₁
        obtain ⟨d', place, name, hd', hu, rfl⟩ := finish_eq_error_iff.mp hf
        cases hd'
        have hnone : undeclared? d.recipe = none := by
          rcases finish_eq_ok_iff.mp h₀ with ⟨hd', _⟩ | ⟨d', hd', hu', _⟩
          · rw [hd] at hd'
            cases hd'
          · rw [hd] at hd'
            cases hd'
            exact hu'
        -- so the placeholder stands in the new line, whose number is the last one
        rw [undeclared?_append, hnone, Option.none_or, Option.map_eq_some_iff] at hu
        obtain ⟨_, _, heq⟩ := hu
        cases heq
        simp [LoadFault.line, hs d hd]
  | comment doc =>
      rcases bind_eq_error_iff.mp h with hl | ⟨s₁, h₁, hf⟩
      · rcases bind_eq_error_iff.mp hl with hl | ⟨s₁, _, hl⟩
        · rw [h₀] at hl
          cases hl
        · cases hl
      · obtain ⟨s₂, h₂, rfl⟩ := accept_comment_eq_ok_iff.mp h₁
        have hd := draft_of_finish h₂
        exact absurd hf (hdone hd)
  | setting key value =>
      rcases bind_eq_error_iff.mp h with hl | ⟨s₁, h₁, hf⟩
      · rcases bind_eq_error_iff.mp hl with hl | ⟨s₁, _, hl⟩
        · rw [h₀] at hl
          cases hl
        · exact readSet_error_line hl
      · obtain ⟨s₂, settings, h₂, _, _, rfl⟩ := accept_setting_eq_ok_iff.mp h₁
        have hd := draft_of_finish h₂
        exact absurd hf (hdone hd)
  | header line =>
      rcases bind_eq_error_iff.mp h with hl | ⟨s₁, h₁, hf⟩
      · rcases bind_eq_error_iff.mp hl with hl | ⟨s₁, _, hl⟩
        · rw [h₀] at hl
          cases hl
        · exact readRecipe_error_line hl
      · obtain ⟨s₂, name, parameters, _, _, _, rfl⟩ := accept_header_eq_ok_iff.mp h₁
        obtain ⟨d, place, placeholder, hd, hu, _⟩ := finish_eq_error_iff.mp hf
        cases hd
        exact absurd (undeclared?_place_lt hu) (by simp)

/-! ## Files and their beginnings -/

theorem numbered_of_readLines {ls : List Text} (h : readLines {} 1 ls = .ok s) : s.Numbered :=
  readLines_induction (P := fun _ s => s.Numbered) (fun _ _ _ _ _ hs hl => hs.accept hl) h
    numbered_empty

/-- A file that cannot be read cannot be read with further lines either. -/
theorem ofLines_append_error {ls : List Text} (h : ofLines ls = .error fault) (more : List Text) :
    ofLines (ls ++ more) = .error fault := by
  unfold ofLines
  rw [readLines_append]
  rcases bind_eq_error_iff.mp h with hl | ⟨s₁, h₁, hf⟩
  · rw [hl]
    rfl
  · rw [h₁, ok_bind]
    exact finish_error_readLines (numbered_of_readLines h₁) hf _ more

/-- Every beginning of a file that can be read can be read. -/
theorem exists_ofLines_take {ls : List Text} (h : ofLines ls = .ok s) (m : Nat) :
    ∃ s', ofLines (ls.take m) = .ok s' := by
  cases hm : ofLines (ls.take m) with
  | ok s' => exact ⟨s', rfl⟩
  | error fault =>
      have := ofLines_append_error hm (ls.drop m)
      rw [List.take_append_drop, h] at this
      cases this

/-- The fault of a file that can be read up to its last line is reported at that line. -/
theorem ofLines_concat_error_line {ls : List Text} {line : Text} (hok : ofLines ls = .ok s)
    (h : ofLines (ls ++ [line]) = .error fault) : fault.line = ls.length + 1 := by
  obtain ⟨s₁, h₁, h₀⟩ := bind_eq_ok_iff.mp hok
  unfold ofLines at h
  rw [readLines_concat, h₁, ok_bind] at h
  rw [accept_finish_error_line (numbered_of_readLines h₁) h₀ h]
  omega

/-- **A fault is reported at the end of the shortest beginning that cannot be read.** -/
theorem ofLines_error_take {ls : List Text} (h : ofLines ls = .error fault) :
    1 ≤ fault.line ∧ fault.line ≤ ls.length ∧
    (∀ m < fault.line, ∃ s, ofLines (ls.take m) = .ok s) ∧
    ∀ m, fault.line ≤ m → ofLines (ls.take m) = .error fault := by
  induction ls using List.reverseRecOn with
  | nil => cases h
  | append_singleton ls line ih =>
      cases hls : ofLines ls with
      | error fault' =>
          -- the fault is one of the lines before the last
          have heq := ofLines_append_error hls [line]
          rw [h] at heq
          cases heq
          obtain ⟨h1, h2, hbefore, hfrom⟩ := ih hls
          refine ⟨h1, by rw [List.length_append]; omega, fun m hm => ?_, fun m hm => ?_⟩
          · rw [List.take_append_of_le_length (by omega)]
            exact hbefore m hm
          · rw [List.take_append]
            exact ofLines_append_error (hfrom m hm) _
      | ok s =>
          have hline := ofLines_concat_error_line hls h
          have hlen : (ls ++ [line]).length = ls.length + 1 := by simp
          refine ⟨by omega, by omega, fun m hm => ?_, fun m hm => ?_⟩
          · rw [List.take_append_of_le_length (by omega)]
            exact exists_ofLines_take hls m
          · rw [List.take_of_length_le (by omega)]
            exact h

/-- A blank line at the end makes no difference but to the comment that no header follows. -/
theorem ofLines_concat_blank (ls : List Text) :
    ofLines (ls ++ [[]]) = (ofLines ls).map fun s => { s with doc := none } := by
  unfold ofLines
  rw [readLines_concat]
  cases readLines {} 1 ls with
  | error fault => rfl
  | ok s =>
      show ({ s with doc := none } : Progress).finish = _
      rw [finish_with_doc]
      rfl

end Progress

/-! ## Texts and their beginnings -/

namespace Registry

open Text

/-- Joined lines are loaded as the lines they are, although an empty last one is no line of the
text. -/
theorem load_unlines {ls : List Text} (h : ∀ line ∈ ls, IsLine line) :
    load (unlines ls) = ofProgress (Progress.ofLines ls) := by
  rw [load_eq]
  rcases lines_unlines h with hls | hls
  · rw [hls]
  · have hblank := Progress.ofLines_concat_blank (lines (unlines ls))
    rw [← hls] at hblank
    rw [hblank]
    cases Progress.ofLines (lines (unlines ls)) <;> rfl

/-- **A fault is reported at the end of the shortest beginning that cannot be loaded.** The first
lines of a text, joined again, are loaded as long as the line that the fault is reported at is not
among them, and from there on give the same fault; so do all texts that begin with the lines of
this one. Every beginning of a text that can be loaded can be loaded. -/
theorem load_error_at_shortest_prefix (t : Text) :
    (∀ fault, load t = .error fault → ∃ f, fault = .malformed none f ∧
      1 ≤ f.line ∧ f.line ≤ (lines t).length ∧
      ∀ m, (m < f.line → ∃ reg, load (unlines ((lines t).take m)) = .ok reg) ∧
        (f.line ≤ m → load (unlines ((lines t).take m)) = .error fault)) ∧
    ((∃ reg, load t = .ok reg) → ∀ m, ∃ reg, load (unlines ((lines t).take m)) = .ok reg) ∧
    (∀ fault u, load t = .error fault → lines t <+: lines u → load u = .error fault) := by
  have hline : ∀ m, ∀ line ∈ (lines t).take m, IsLine line := fun m line hm =>
    isLine_of_mem_lines line (List.mem_of_mem_take hm)
  refine ⟨fun fault h => ?_, fun ⟨reg, h⟩ m => ?_, fun fault u h hu => ?_⟩
  · obtain ⟨f, hf, rfl⟩ := load_eq_error_iff.mp h
    obtain ⟨h1, h2, hbefore, hfrom⟩ := Progress.ofLines_error_take hf
    refine ⟨f, rfl, h1, h2, fun m => ⟨fun hm => ?_, fun hm => ?_⟩⟩
    · obtain ⟨s, hs⟩ := hbefore m hm
      rw [load_unlines (hline m), hs]
      exact ⟨_, rfl⟩
    · rw [load_unlines (hline m), hfrom m hm]
      rfl
  · obtain ⟨s, hs, _⟩ := load_eq_ok_iff.mp h
    obtain ⟨s', hs'⟩ := Progress.exists_ofLines_take hs m
    rw [load_unlines (hline m), hs']
    exact ⟨_, rfl⟩
  · obtain ⟨f, hf, rfl⟩ := load_eq_error_iff.mp h
    obtain ⟨more, hmore⟩ := hu
    rw [load_eq, ← hmore, Progress.ofLines_append_error hf]
    rfl

/-- An undeclared placeholder is reported at its own line, the second, although the recipe is
completed only at the fourth, which is no header. -/
theorem load_error_at_shortest_prefix_late :
    let t := "a x:\n  {{y}}\n  {{z}}\nb\n".toList
    let fault := RegistryFault.malformed none (.atLine 2 (.undeclared ['a'] ['y']))
    load t = .error fault ∧
    (∃ reg, load (unlines ((lines t).take 1)) = .ok reg) ∧
    load (unlines ((lines t).take 3)) = .error fault ∧
    ∀ u, lines t <+: lines u → load u = .error fault := by
  intro t fault
  have h : load t = .error (.malformed none (.atLine 2 (.undeclared ['a'] ['y']))) := by
    decide +kernel
  obtain ⟨herror, _, happend⟩ := load_error_at_shortest_prefix t
  obtain ⟨f, hf, _, _, htake⟩ := herror _ h
  cases hf
  exact ⟨h, (htake 1).1 (by decide), (htake 3).2 (by decide), fun u => happend _ u h⟩

end Registry

end Runbook
