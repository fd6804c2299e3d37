import Runbook.Proofs.RecipeFile.Spelling

set_option autoImplicit false

/-! # Comments

A `#` begins a comment only outside quoted texts. A text is *free of comments* when it holds none
and leaves no quoted text open, so that a comment can only begin behind it. Written forms are free
of comments: every `#` in them stands between marks.
-/

namespace Runbook

open Text

/-! ## Texts without comments -/

/-- Whether a text holds no comment and leaves no quoted text open, so that a comment can only
begin behind it. -/
def CommentFree (t : Text) : Prop :=
  ∀ rest, beforeComment none (t ++ rest) = (t ++ ·) <$> beforeComment none rest

theorem commentFree_nil : CommentFree [] := by
  intro rest
  cases h : beforeComment none rest <;> simp [h]

theorem CommentFree.append {t u : Text} (ht : CommentFree t) (hu : CommentFree u) :
    CommentFree (t ++ u) := by
  intro rest
  rw [List.append_assoc, ht, hu]
  cases beforeComment none rest <;> simp

/-- There is no comment to strip. -/
theorem stripComment_of_commentFree {t : Text} (h : CommentFree t) : stripComment t = t := by
  have hnone : beforeComment none t = none := by
    have := h []
    rwa [List.append_nil] at this
  unfold stripComment
  rw [hnone]

/-- Characters that neither quote nor begin a comment. -/
theorem commentFree_of_forall {t : Text} (h : ∀ c ∈ t, c ≠ '"' ∧ c ≠ '\'' ∧ c ≠ '#') :
    CommentFree t := by
  induction t with
  | nil => exact commentFree_nil
  | cons c t ih =>
      intro rest
      obtain ⟨h1, h2, h3⟩ := h c (by simp)
      rw [List.cons_append, beforeComment]
      have hquote : (c == '"' || c == '\'') = false := by simp [h1, h2]
      have hcomment : (c == '#') = false := by simp [h3]
      rw [hquote, hcomment, ih (fun d hd => h d (by simp [hd])) rest]
      cases beforeComment none rest <;> rfl

/-- A text whose characters can be looked through. -/
theorem commentFree_of_all {t : Text}
    (h : (t.all fun c => c != '"' && c != '\'' && c != '#') = true) : CommentFree t := by
  refine commentFree_of_forall fun c hc => ?_
  have hall := List.all_eq_true.mp h c hc
  simpa [and_assoc] using hall

/-- The characters of a class that holds none of these three. -/
theorem commentFree_of_class {p : Char → Bool} {t : Text} (h : ∀ c ∈ t, p c = true)
    (hquote : p '"' = false) (happ : p '\'' = false) (hhash : p '#' = false) :
    CommentFree t := by
  have hne : ∀ {c d : Char}, p c = true → p d = false → c ≠ d := by
    rintro c d hc hd rfl
    rw [hc] at hd
    cases hd
  exact commentFree_of_forall fun c hc =>
    ⟨hne (h c hc) hquote, hne (h c hc) happ, hne (h c hc) hhash⟩

/-! ## Written forms -/

/-- Inside a quoted text nothing begins a comment, up to its mark. -/
theorem beforeComment_quoted {mark : Char} {content : Text} (h : mark ∉ content) (rest : Text) :
    beforeComment (some mark) (content ++ mark :: rest) =
      (content ++ [mark] ++ ·) <$> beforeComment none rest := by
  induction content with
  | nil =>
      rw [List.nil_append, beforeComment]
      simp
  | cons c content ih =>
      rw [List.mem_cons, not_or] at h
      have hc : (c == mark) = false := by simpa using Ne.symm h.1
      rw [List.cons_append, beforeComment, hc, if_neg (by simp), ih h.2]
      cases beforeComment none rest <;> rfl

theorem commentFree_of_quotes {content t : Text} (h : Quotes content t) : CommentFree t := by
  obtain ⟨hmark, hfree⟩ := h
  next mark =>
    intro rest
    have hquote : (mark == '"' || mark == '\'') = true := by
      rcases hmark with rfl | rfl <;> rfl
    have hassoc : content ++ [mark] ++ rest = content ++ mark :: rest := by simp
    rw [List.cons_append, beforeComment, hquote, if_pos rfl, hassoc, beforeComment_quoted hfree]
    cases beforeComment none rest <;> rfl

theorem commentFree_of_isBlankText {b : Text} (hb : IsBlankText b) : CommentFree b :=
  commentFree_of_class hb rfl rfl rfl

theorem commentFree_of_isName {name : Text} (h : isName name = true) : CommentFree name := by
  obtain ⟨_, _, _, _, hall⟩ := exists_cons_of_isName h
  exact commentFree_of_class hall rfl rfl rfl

theorem commentFree_starText (star : Bool) : CommentFree (starText star) := by
  cases star with
  | true => exact commentFree_of_all rfl
  | false => exact commentFree_nil

theorem Parameter.Spells.commentFree {p : Parameter} {t : Text} (h : p.Spells t) :
    CommentFree t := by
  cases h with
  | plain star hname => exact (commentFree_starText star).append (commentFree_of_isName hname)
  | @withDefault name d q star hname hq =>
      have heq : CommentFree ('=' :: q) :=
        CommentFree.append (t := ['=']) (commentFree_of_all rfl) (commentFree_of_quotes hq)
      exact (commentFree_starText star).append ((commentFree_of_isName hname).append heq)

theorem SpellsParameters.commentFree {ps : List Parameter} {t : Text}
    (h : SpellsParameters ps t) : CommentFree t := by
  induction h with
  | nil => exact commentFree_nil
  | cons hb hne hp hps ih => exact (commentFree_of_isBlankText hb).append (hp.commentFree.append ih)

theorem SpellsHeader.commentFree {name line : Text} {ps : List Parameter}
    (h : SpellsHeader name ps line) : CommentFree line := by
  obtain ⟨hname, hps, hb, hb'⟩ := h
  have hcolon : CommentFree [':'] := commentFree_of_all rfl
  exact (commentFree_of_isName hname).append (hps.commentFree.append
    ((commentFree_of_isBlankText hb).append (hcolon.append (commentFree_of_isBlankText hb'))))

theorem commentFree_settingStart {key : Text} (h : isName key = true) :
    CommentFree (settingStart key) :=
  CommentFree.append (t := ['s', 'e', 't', ' ']) (commentFree_of_all rfl)
    (commentFree_of_isName h)

theorem SpellsItems.commentFree {items : List Text} {t : Text} (h : SpellsItems items t) :
    CommentFree t := by
  have hsign : ∀ c : Char, c = ']' ∨ c = ',' → CommentFree [c] := by
    rintro c (rfl | rfl)
    · exact commentFree_of_all rfl
    · exact commentFree_of_all rfl
  induction h with
  | nil => exact hsign _ (Or.inl rfl)
  | last hq hb =>
      exact (commentFree_of_quotes hq).append
        ((commentFree_of_isBlankText hb).append (hsign _ (Or.inl rfl)))
  | cons hq hb hb' ht ih =>
      have hrest := (hsign ',' (Or.inr rfl)).append ((commentFree_of_isBlankText hb').append ih)
      exact (commentFree_of_quotes hq).append ((commentFree_of_isBlankText hb).append hrest)

theorem SpellsList.commentFree {items : List Text} {t : Text} (h : SpellsList items t) :
    CommentFree t := by
  obtain ⟨hb, ht⟩ := h
  exact CommentFree.append (t := ['[']) (commentFree_of_all rfl)
    ((commentFree_of_isBlankText hb).append ht.commentFree)

end Runbook
