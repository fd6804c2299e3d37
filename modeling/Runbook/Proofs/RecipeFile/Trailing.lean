import Runbook.Proofs.RecipeFile.Lists

set_option autoImplicit false

/-! # Comments at the ends of lines

A comment can be put behind every header and every setting of a recipe file, whatever is written in
it and whatever the line holds between marks. Two readers have to agree for that: the one that looks
for the start of a comment, and keeps track of the marks one character after the other, and the one
that reads the quoted texts of the line. They do, because what is accepted as a header or as a value
is a written form, and written forms are free of comments. Of a line with a comment nothing behind the
first `#` outside quoted texts is looked at, so that more can be put there in any case.
-/

namespace Runbook

open Text

/-! ## What is accepted is free of comments -/

theorem commentFree_of_declaration {t name : Text} {ps : List Parameter}
    (h : declaration t = .ok (name, ps)) : CommentFree t := by
  obtain ⟨w, rfl, rfl, rfl, _⟩ := declaration_eq_ok_iff_written.mp h
  exact w.spells.commentFree

/-- A truth has no marks and no `#`. -/
theorem commentFree_of_give_arguments {s s' : FileSettings} {v : Text}
    (h : s.give "positional-arguments".toList (some v) = .ok s') : CommentFree v := by
  unfold FileSettings.give at h
  rw [if_pos (beq_self_eq_true _)] at h
  dsimp only at h
  split at h
  · next hv =>
      rw [beq_iff_eq.mp hv]
      exact commentFree_of_all rfl
  · split at h
    · next hv =>
        rw [beq_iff_eq.mp hv]
        exact commentFree_of_all rfl
    · cases h

/-- A value that can be given to a setting is free of comments. -/
theorem commentFree_of_give {s s' : FileSettings} {key v : Text}
    (h : s.give key (some v) = .ok s') : CommentFree v := by
  rcases FileSettings.give_cases h with ⟨rfl, _⟩ | ⟨_, items, hread, _⟩
  · exact commentFree_of_give_arguments h
  · exact (readList_eq_some_iff.mp hread).commentFree

theorem commentFree_of_trim {t : Text} (h : CommentFree (trim t)) : CommentFree t := by
  obtain ⟨b, hb, hstart⟩ := exists_append_trimStart t
  obtain ⟨b', hb', hend⟩ := exists_append_trimEnd (trimStart t)
  rw [hstart, hend]
  exact (commentFree_of_isBlankText hb).append (h.append (commentFree_of_isBlankText hb'))

/-- A setting with a value that it may have is free of comments. -/
theorem commentFree_of_readSetting {t key : Text} {value : Option Text} {s s' : FileSettings}
    (h : readSetting t = some (key, value)) (hgive : s.give key value = .ok s') :
    CommentFree t := by
  obtain ⟨c, rest, after, rfl, hc, hkey, hafter⟩ := readSetting_eq_some_iff.mp h
  have hset : CommentFree ['s', 'e', 't'] := commentFree_of_all rfl
  have hc' : CommentFree [c] := commentFree_of_isBlankText (by simpa [IsBlankText] using hc)
  -- what stands behind the key is an assignment of the value, or nothing but blanks
  have hbehind : CommentFree after := by
    obtain ⟨b, hb, hcut⟩ := exists_append_trimStart after
    rcases hafter with ⟨hnil, _⟩ | ⟨v, hassign, rfl⟩
    · rw [hnil, List.append_nil] at hcut
      rw [hcut]
      exact commentFree_of_isBlankText hb
    · have hsign : CommentFree [':', '='] := commentFree_of_all rfl
      rw [hcut, hassign]
      exact (commentFree_of_isBlankText hb).append
        (hsign.append (commentFree_of_trim (commentFree_of_give hgive)))
  have hrest : CommentFree rest := by
    obtain ⟨b, hb, hcut⟩ := exists_append_trimStart rest
    rw [hcut, readName_append hkey]
    exact (commentFree_of_isBlankText hb).append
      ((commentFree_of_isName (isName_of_readName hkey)).append hbehind)
  exact hset.append (hc'.append hrest)

/-! ## A comment behind a line -/

/-- What follows the start of a comment is not looked at. -/
theorem beforeComment_append {open_ : Option Char} {t kept : Text}
    (h : beforeComment open_ t = some kept) (more : Text) :
    beforeComment open_ (t ++ more) = some kept := by
  induction t generalizing open_ kept with
  | nil => cases h
  | cons c t ih =>
      have hcons : ∀ {next : Option Char}, (c :: ·) <$> beforeComment next t = some kept →
          (c :: ·) <$> beforeComment next (t ++ more) = some kept := by
        intro next hnext
        obtain ⟨rest, hrest, rfl⟩ := Option.map_eq_some_iff.mp hnext
        rw [ih hrest]
        rfl
      cases open_ with
      | some q => exact hcons h
      | none =>
          rw [beforeComment] at h
          rw [List.cons_append, beforeComment]
          split at h
          · next hquote =>
              rw [if_pos hquote]
              exact hcons h
          · next hquote =>
              rw [if_neg hquote]
              split at h
              · next hhash =>
                  rw [if_pos hhash]
                  exact h
              · next hhash =>
                  rw [if_neg hhash]
                  exact hcons h

/-- **A comment put behind a line is cut off again**, where the line has a comment already or is
free of comments. -/
theorem Line.directive_append_comment {line : Text} (h : CommentFree (Line.directive line))
    (c : Text) : Line.directive (line ++ '#' :: c) = Line.directive line := by
  rw [Line.directive_eq, Line.directive_eq]
  cases hline : beforeComment none line with
  | some kept =>
      unfold stripComment
      rw [beforeComment_append hline, hline]
  | none =>
      -- no comment begins in the line, which is the directive and the blanks at its end
      have hstrip : stripComment line = line := by
        unfold stripComment
        rw [hline]
      rw [Line.directive_eq, hstrip] at h
      obtain ⟨b, hb, hcut⟩ := exists_append_trimEnd line
      have hfree : CommentFree line := by
        rw [hcut]
        exact h.append (commentFree_of_isBlankText hb)
      have hkept : beforeComment none (line ++ '#' :: c) = some line := by
        rw [hfree]
        simp [beforeComment]
      unfold stripComment
      rw [hkept, hline]
      exact trimEnd_trimEnd line

namespace LineForm

variable {line : Text}

theorem isOuter_append (h : Line.isOuter line = true) (more : Text) :
    Line.isOuter (line ++ more) = true := by
  simp only [Line.isOuter, Bool.and_eq_true, Bool.not_eq_true', List.isEmpty_eq_false_iff,
    ne_eq, trim_eq_nil_iff] at h ⊢
  obtain ⟨hblank, hindent⟩ := h
  have hne : line ≠ [] := by
    rintro rfl
    exact hblank (by simp)
  refine ⟨fun hall => hblank fun c hc => hall c (by simp [hc]), ?_⟩
  unfold Line.isIndented at hindent ⊢
  rw [List.head?_append_of_ne_nil _ hne]
  exact hindent

/-- A comment behind a header or a setting leaves the form of the line alone. -/
theorem of_append_comment (houter : Line.isOuter line = true)
    (hcomment : Line.isComment line = false) (hfree : CommentFree (Line.directive line))
    (c : Text) : of (line ++ '#' :: c) = of line := by
  have hne : line ≠ [] := by
    rintro rfl
    cases houter
  have hcomment' : Line.isComment (line ++ '#' :: c) = false := by
    unfold Line.isComment at hcomment ⊢
    rw [List.head?_append_of_ne_nil _ hne]
    exact hcomment
  rw [of_directive_eq _ (by simp [isOuter_append houter, hcomment']),
    of_directive_eq _ (by simp [houter, hcomment]), Line.directive_append_comment hfree]

end LineForm

/-! ## Comments in recipe files -/

/-- What is left of an accepted header or setting is free of comments. -/
theorem Progress.commentFree_of_readLine {s s' : Progress} {n : Nat} {line : Text}
    (houter : Line.isOuter line = true) (hcomment : Line.isComment line = false)
    (h : s.readLine n line = .ok s') : CommentFree (Line.directive line) := by
  unfold Progress.readLine at h
  rw [LineForm.of_directive_eq line (by simp [houter, hcomment])] at h
  unfold LineForm.ofDirective at h
  split at h
  · next key value hread =>
      obtain ⟨_, _, _, _, hgive, _⟩ := accept_setting_eq_ok_iff.mp h
      exact commentFree_of_readSetting hread hgive
  · obtain ⟨_, _, _, _, hdecl, _⟩ := accept_header_eq_ok_iff.mp h
    exact commentFree_of_declaration hdecl

namespace Registry

/-- **Comments at the ends of lines make no difference.** In a text that can be loaded a `#` with
anything behind it may be put at the end of every line that is neither blank nor indented nor a
comment; the text is loaded as the same registry. -/
theorem ofText_append_comment {source : Option Path} {t u line c : Text} {above below : List Text}
    {reg : Registry} (h : ofText source t = .ok reg) (ht : lines t = above ++ line :: below)
    (houter : Line.isOuter line = true) (hcomment : Line.isComment line = false)
    (hu : lines u = above ++ (line ++ '#' :: c) :: below) : ofText source u = .ok reg := by
  obtain ⟨s, hs, rfl⟩ := ofText_eq_ok_iff.mp h
  rw [ht] at hs
  obtain ⟨s₀, s₁, _, hline, _⟩ := Progress.exists_readLine_of_ofLines hs
  have hfree := Progress.commentFree_of_readLine houter hcomment hline
  have hforms : (lines u).map LineForm.of = (above ++ line :: below).map LineForm.of := by
    rw [hu, List.map_append, List.map_append, List.map_cons, List.map_cons,
      LineForm.of_append_comment houter hcomment hfree]
  rw [← Progress.ofLines_congr hforms] at hs
  exact ofText_eq_ok_iff.mpr ⟨s, hs, rfl⟩

/-- Comments with marks of both kinds and a `#`: one behind a list of quoted texts that hold the same,
and one behind a header that has a comment already. -/
theorem ofText_append_comment_quoted :
    let list := "set shell := [\"#'\", '\"#']  ".toList
    let header := "r x='\"#' *y=\"'\": # one \"".toList
    let entry := " {{x}}".toList
    let c := "'\" # ".toList
    let t := unlines [list, ['#', 'd'], header, entry]
    let u := unlines [list ++ '#' :: c, ['#', 'd'], header, entry]
    let v := unlines [list, ['#', 'd'], header ++ '#' :: c, entry]
    let reg : Registry := {
      recipes := [
        { name := ['r']
          parameters := [⟨['x'], some ['"', '#'], false⟩, ⟨['y'], some ['\''], true⟩]
          body := ["{{x}}".toList]
          doc := some ['d']
          line := 3 }]
      settings := { shell := some [['#', '\''], ['"', '#']] } }
    ofText none t = .ok reg ∧
    (lines t = [] ++ list :: [['#', 'd'], header, entry] ∧ Line.isOuter list = true ∧
      Line.isComment list = false ∧
      lines u = [] ++ (list ++ '#' :: c) :: [['#', 'd'], header, entry] ∧
      ofText none u = .ok reg) ∧
    (lines t = [list, ['#', 'd']] ++ header :: [entry] ∧ Line.isOuter header = true ∧
      Line.isComment header = false ∧
      lines v = [list, ['#', 'd']] ++ (header ++ '#' :: c) :: [entry] ∧
      ofText none v = .ok reg) := by
  intro list header entry c t u v reg
  have hload : ofText none t = .ok reg := by decide +kernel
  refine ⟨hload, ?_, ?_⟩
  · have ht : lines t = [] ++ list :: [['#', 'd'], header, entry] := by decide +kernel
    have hline : Line.isOuter list = true ∧ Line.isComment list = false := by decide +kernel
    have hu : lines u = [] ++ (list ++ '#' :: c) :: [['#', 'd'], header, entry] := by
      decide +kernel
    exact ⟨ht, hline.1, hline.2, hu, ofText_append_comment hload ht hline.1 hline.2 hu⟩
  · have ht : lines t = [list, ['#', 'd']] ++ header :: [entry] := by decide +kernel
    have hline : Line.isOuter header = true ∧ Line.isComment header = false := by decide +kernel
    have hv : lines v = [list, ['#', 'd']] ++ (header ++ '#' :: c) :: [entry] := by decide +kernel
    exact ⟨ht, hline.1, hline.2, hv, ofText_append_comment hload ht hline.1 hline.2 hv⟩

end Registry

end Runbook
