import Runbook.Proofs.RecipeFile.Comments
import Runbook.RecipeFile.Form

set_option autoImplicit false

/-! # Which form a line has

A line is recognised by the character that it begins with. A written header is a header, whatever
its name is, and a written setting is a setting. Blanks at the end change nothing.
-/

namespace Runbook

namespace LineForm

open Text

variable {c : Char} {t : Text}

/-- A line of blanks is blank. -/
theorem of_isBlankText (h : IsBlankText t) : of t = blank := by
  unfold of
  rw [(trimEnd_eq_nil_iff t).mpr h]

theorem of_trimEnd (t : Text) : of (trimEnd t) = of t := by
  unfold of
  rw [trimEnd_trimEnd]

/-- An indented line is an entry or, with a `#`, a comment. -/
theorem of_indented (hc : c = ' ' ∨ c = '\t') (ht : trim t ≠ []) :
    of (c :: t) = if (trim t).head? == some '#' then remark else entry (trim t) := by
  have hblank : isBlank c = true := by
    rcases hc with rfl | rfl <;> rfl
  have hnonblank : trimEnd t ≠ [] := by
    intro h
    exact ht ((trim_eq_nil_iff t).mpr ((trimEnd_eq_nil_iff t).mp h))
  have hend : trimEnd (c :: t) = c :: trimEnd t := trimEnd_append (t := [c]) hnonblank
  have htrim : trim (c :: trimEnd t) = trim t := by
    have h := trim_append_of_blank (b := [c]) (by simpa using hblank) (trimEnd t)
    rw [trim_trimEnd] at h
    exact h
  have hindent : (c == ' ' || c == '\t') = true := by simpa using hc
  unfold of
  rw [hend]
  dsimp only
  rw [if_pos hindent]
  unfold ofIndented
  rw [htrim]

/-- A line that begins with `#` is a comment. -/
theorem of_hash (t : Text) :
    of ('#' :: t) = comment (if trim t = [] then none else some (trim t)) := by
  unfold of
  rw [trimEnd_cons rfl]
  show ofComment (trimEnd t) = _
  unfold ofComment
  simp [trim_trimEnd]

/-- All other lines are settings or headers, once their comment is cut off. -/
theorem of_directive (hblank : isBlank c = false) (hhash : c ≠ '#') :
    of (c :: t) = ofDirective (stripComment (trimEnd (c :: t))) := by
  have hindent : (c == ' ' || c == '\t') = false := by
    have hspace : c ≠ ' ' := by
      rintro rfl
      cases hblank
    have htab : c ≠ '\t' := by
      rintro rfl
      cases hblank
    simp [hspace, htab]
  unfold of
  rw [trimEnd_cons hblank]
  dsimp only
  rw [hindent]
  simp [hhash]

/-- **A written header is a header**, also that of a recipe whose name is `set`. -/
theorem of_spellsHeader {name line : Text} {ps : List Parameter}
    (h : SpellsHeader name ps line) : of line = header (trimEnd line) := by
  obtain ⟨tail, hread, htail⟩ := exists_readHeader h.trimEnd
  obtain ⟨c, rest, hline, hblank, hhash⟩ := exists_cons_of_spellsHeader h
  have hdirective : of line = ofDirective (stripComment (trimEnd line)) := by
    rw [hline]
    exact of_directive hblank hhash
  rw [hdirective, stripComment_of_commentFree h.trimEnd.commentFree]
  unfold ofDirective
  rw [readSetting_eq_none hread htail]

/-- **A written setting is a setting**, without a value. -/
theorem of_flag {key : Text} (h : isName key = true) :
    of (settingStart key) = setting key none := by
  have hdirective : of (settingStart key) =
      ofDirective (stripComment (trimEnd (settingStart key))) :=
    of_directive rfl (by decide)
  have hend : trimEnd (settingStart key) = settingStart key :=
    trimEnd_append_isName ['s', 'e', 't', ' '] h
  rw [hdirective, hend, stripComment_of_commentFree (commentFree_settingStart h)]
  unfold ofDirective
  rw [readSetting_flag h]

/-- **A written setting is a setting**, with its value. -/
theorem of_assignment {key value : Text} (h : isName key = true) (hfree : CommentFree value)
    (htrim : trim value = value) (hne : value ≠ []) :
    of (settingStart key ++ ([' ', ':', '=', ' '] ++ value)) = setting key (some value) := by
  have hdirective : of (settingStart key ++ ([' ', ':', '=', ' '] ++ value)) =
      ofDirective (stripComment (trimEnd (settingStart key ++ ([' ', ':', '=', ' '] ++ value)))) :=
    of_directive rfl (by decide)
  have hlast : trimEnd value = value := trimEnd_of_trim htrim
  have hend : trimEnd (settingStart key ++ ([' ', ':', '=', ' '] ++ value)) =
      settingStart key ++ ([' ', ':', '=', ' '] ++ value) := by
    rw [← List.append_assoc, trimEnd_append (by rwa [hlast]), hlast]
  have hsign : CommentFree [' ', ':', '=', ' '] := commentFree_of_all rfl
  have hline := (commentFree_settingStart h).append (hsign.append hfree)
  have hread : readSetting (settingStart key ++ ([' ', ':', '=', ' '] ++ value)) =
      some (key, some value) := by
    have htrim' : trim (' ' :: value) = value := by
      have := trim_append_of_blank isBlankText_space value
      rw [htrim] at this
      exact this
    have hassignment := readSetting_assignment h (' ' :: value)
    rwa [htrim'] at hassignment
  rw [hdirective, hend, stripComment_of_commentFree hline]
  unfold ofDirective
  rw [hread]

end LineForm

end Runbook
