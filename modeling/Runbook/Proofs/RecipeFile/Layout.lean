import Runbook.Proofs.RecipeFile.RoundTrip
import Runbook.Proofs.RecipeFile.Sections

set_option autoImplicit false

/-! # The layout of a recipe file

The width of the indentation, blanks at the ends of lines, blank lines and comments in bodies are
layout: they can be changed without changing what is read, but for the numbers of the lines. Blanks
do not change the form of a line. A line that is put between others moves those below it, and the
reader reads them in a state that *agrees* with the one it would have been in: all is the same but for
the numbers of lines, which decide nothing. A blank line makes one difference more, because it drops
the comment that waits for a heading; that is lost on every line but a heading.
-/

namespace Runbook

open Text

/-! ## Edits of the layout -/

/-- Whether a text can indent a line: blanks, the first of which is a space or a tab. -/
structure IsIndentation (b : Text) : Prop where
  blank : IsBlankText b
  indents : Line.isIndented b = true

/-- What may be done to the lines of a recipe file without changing what they say. -/
inductive LayoutEdit : List Text → List Text → Prop where
  /-- An indented line is indented in another way. -/
  | indent {above below : List Text} {b b' rest : Text} (hb : IsIndentation b)
      (hb' : IsIndentation b') :
      LayoutEdit (above ++ (b ++ rest) :: below) (above ++ (b' ++ rest) :: below)
  /-- Blanks are put at the end of a line. -/
  | trail {above below : List Text} {line b : Text} (hb : IsBlankText b) :
      LayoutEdit (above ++ line :: below) (above ++ (line ++ b) :: below)
  /-- A line of blanks is put anywhere but directly between a comment and a heading. -/
  | blank {above below : List Text} {b : Text} (hb : IsBlankText b)
      (hplace : ¬ ((∃ line ∈ above.getLast?, Line.isComment line = true) ∧
        ∃ line ∈ below.head?, Line.isHeading line = true)) :
      LayoutEdit (above ++ below) (above ++ b :: below)
  /-- An indented comment is put below a heading and above the next outer line. -/
  | remark {above inner below : List Text} {heading b c : Text}
      (hheading : Line.isHeading heading = true)
      (hinner : ∀ line ∈ inner, Line.isOuter line = false) (hb : IsIndentation b) :
      LayoutEdit (above ++ heading :: (inner ++ below))
        (above ++ heading :: (inner ++ (b ++ '#' :: c) :: below))

/-! ## The forms of lines -/

namespace LineForm

variable {b b' rest : Text}

/-- Blanks at the end of a line do not count. -/
theorem of_append_blank (line : Text) (hb : IsBlankText b) : of (line ++ b) = of line := by
  rw [← of_trimEnd (line ++ b), trimEnd_append_of_blank line hb, of_trimEnd]

theorem isIndented_append (hb : IsIndentation b) (rest : Text) :
    Line.isIndented (b ++ rest) = true := by
  have hindents := hb.indents
  cases b with
  | nil => cases hindents
  | cons c b => exact hindents

/-- Of an indented line only what stands behind the blanks counts. -/
theorem of_indentation_append (hb : IsIndentation b) (rest : Text) :
    of (b ++ rest) = if (trim rest).isEmpty then blank
      else if (trim rest).head? == some '#' then remark else entry (trim rest) := by
  rw [of_eq, isIndented_append hb, trim_append_of_blank hb.blank]
  rfl

theorem of_indented_comment (hb : IsIndentation b) (c : Text) : of (b ++ '#' :: c) = remark := by
  have htrim : trim ('#' :: c) = '#' :: trimEnd c := by
    unfold trim
    rw [trimStart_of_head rfl, trimEnd_cons rfl]
  rw [of_indentation_append hb, htrim]
  rfl

end LineForm

namespace Progress

variable {s s' t t' : Progress} {n : Nat} {ls above below : List Text}

/-! ## States that agree -/

/-- Whether two states are the same but for the numbers of lines. -/
structure Agrees (s t : Progress) : Prop where
  recipes : s.recipes.map Recipe.unplaced = t.recipes.map Recipe.unplaced
  draft : s.draft.map (·.recipe.unplaced) = t.draft.map (·.recipe.unplaced)
  settings : s.settings = t.settings
  given : s.given = t.given
  doc : s.doc = t.doc

theorem Agrees.refl (s : Progress) : Agrees s s := ⟨rfl, rfl, rfl, rfl, rfl⟩

theorem Agrees.exists_draft (h : Agrees s t) {d : Draft} (hd : s.draft = some d) :
    ∃ d', t.draft = some d' ∧ d'.recipe.unplaced = d.recipe.unplaced := by
  have hdraft := h.draft
  rw [hd, Option.map_some, eq_comm, Option.map_eq_some_iff] at hdraft
  exact hdraft

theorem Agrees.draft_none (h : Agrees s t) (hd : s.draft = none) : t.draft = none := by
  have hdraft := h.draft
  rw [hd, Option.map_none, eq_comm, Option.map_eq_none_iff] at hdraft
  exact hdraft

/-- The number of its line has no part in what a recipe declares. -/
theorem undeclared?_eq_of_unplaced {r r' : Recipe} (h : r.unplaced = r'.unplaced) :
    undeclared? r = undeclared? r' :=
  show undeclared? r.unplaced = undeclared? r'.unplaced from congrArg undeclared? h

theorem Agrees.finish (h : Agrees s t) (hs : s.finish = .ok s') :
    ∃ t', t.finish = .ok t' ∧ Agrees s' t' := by
  rcases finish_eq_ok_iff.mp hs with ⟨hd, rfl⟩ | ⟨d, hd, hdeclared, rfl⟩
  · exact ⟨t, finish_of_draft_none (h.draft_none hd), h⟩
  · obtain ⟨d', hd', hsame⟩ := h.exists_draft hd
    rw [undeclared?_eq_of_unplaced hsame.symm] at hdeclared
    refine ⟨_, finish_eq_ok_iff.mpr (Or.inr ⟨d', hd', hdeclared, rfl⟩), ?_⟩
    exact {
      recipes := by simp [h.recipes, hsame]
      draft := rfl
      settings := h.settings
      given := h.given
      doc := h.doc }

/-- **A line takes states that agree to states that agree**, whatever its number. -/
theorem Agrees.accept (h : Agrees s t) {form : LineForm} (hs : s.accept n form = .ok s')
    (m : Nat) : ∃ t', t.accept m form = .ok t' ∧ Agrees s' t' := by
  cases form with
  | blank =>
      cases hs
      exact ⟨_, rfl, ⟨h.recipes, h.draft, h.settings, h.given, rfl⟩⟩
  | remark =>
      obtain ⟨⟨d, hd⟩, rfl⟩ := accept_remark_eq_ok_iff.mp hs
      obtain ⟨d', hd', _⟩ := h.exists_draft hd
      exact ⟨t, accept_remark_eq_ok_iff.mpr ⟨⟨d', hd'⟩, rfl⟩, h⟩
  | entry template =>
      obtain ⟨d, hd, rfl⟩ := accept_entry_eq_ok_iff.mp hs
      obtain ⟨d', hd', hsame⟩ := h.exists_draft hd
      have hbody : ∀ r : Recipe, ({ r with body := r.body ++ [template] } : Recipe).unplaced =
          { r.unplaced with body := r.unplaced.body ++ [template] } := fun _ => rfl
      refine ⟨_, accept_entry_eq_ok_iff.mpr ⟨d', hd', rfl⟩, ?_⟩
      refine ⟨h.recipes, ?_, h.settings, h.given, h.doc⟩
      rw [Option.map_some, Option.map_some, hbody, hbody, hsame]
  | comment doc =>
      obtain ⟨s₀, hs₀, rfl⟩ := accept_comment_eq_ok_iff.mp hs
      obtain ⟨t₀, ht₀, h₀⟩ := h.finish hs₀
      exact ⟨_, accept_comment_eq_ok_iff.mpr ⟨t₀, ht₀, rfl⟩,
        ⟨h₀.recipes, h₀.draft, h₀.settings, h₀.given, rfl⟩⟩
  | setting key value =>
      obtain ⟨s₀, settings, hs₀, hnew, hgive, rfl⟩ := accept_setting_eq_ok_iff.mp hs
      obtain ⟨t₀, ht₀, h₀⟩ := h.finish hs₀
      rw [h₀.given] at hnew
      rw [h₀.settings] at hgive
      exact ⟨_, accept_setting_eq_ok_iff.mpr ⟨t₀, settings, ht₀, hnew, hgive, rfl⟩,
        ⟨h₀.recipes, h₀.draft, rfl, congrArg (key :: ·) h₀.given, rfl⟩⟩
  | header line =>
      obtain ⟨s₀, name, parameters, hs₀, hdecl, hnew, rfl⟩ := accept_header_eq_ok_iff.mp hs
      obtain ⟨t₀, ht₀, h₀⟩ := h.finish hs₀
      have hnew' : ∀ r ∈ t₀.recipes, r.name ≠ name := by
        intro r hr heq
        have hmem : r.name ∈ s₀.recipes.map (·.name) := by
          rw [names_of_unplaced h₀.recipes]
          exact List.mem_map_of_mem hr
        obtain ⟨r', hr', hname⟩ := List.mem_map.mp hmem
        exact hnew r' hr' (hname.trans heq)
      refine ⟨_, accept_header_eq_ok_iff.mpr ⟨t₀, name, parameters, ht₀, hdecl, hnew', rfl⟩, ?_⟩
      refine ⟨h₀.recipes, ?_, h₀.settings, h₀.given, rfl⟩
      rw [Option.map_some, Option.map_some, h₀.doc]
      rfl

theorem Agrees.readLines (h : Agrees s t) (hs : s.readLines n ls = .ok s') (m : Nat) :
    ∃ t', t.readLines m ls = .ok t' ∧ Agrees s' t' := by
  induction ls generalizing s t n m with
  | nil =>
      cases hs
      exact ⟨t, rfl, h⟩
  | cons line ls ih =>
      rw [readLines_cons, bind_eq_ok_iff] at hs
      obtain ⟨s₁, hs₁, hs⟩ := hs
      obtain ⟨t₁, ht₁, h₁⟩ := h.accept hs₁ m
      obtain ⟨t', ht', h'⟩ := ih h₁ hs (m + 1)
      refine ⟨t', ?_, h'⟩
      rw [readLines_cons, readLine, ht₁, ok_bind, ht']

/-- Files that are read to the end from states that agree give the same but for places. -/
theorem Agrees.readLines_finish (h : Agrees s t)
    (hs : (s.readLines n ls >>= Progress.finish) = .ok s') (m : Nat) :
    ∃ t', (t.readLines m ls >>= Progress.finish) = .ok t' ∧ Agrees s' t' := by
  obtain ⟨s₁, hs₁, hfinish⟩ := bind_eq_ok_iff.mp hs
  obtain ⟨t₁, ht₁, h₁⟩ := h.readLines hs₁ m
  obtain ⟨t', ht', h'⟩ := h₁.finish hfinish
  refine ⟨t', ?_, h'⟩
  rw [ht₁, ok_bind, ht']

/-! ## Lines that are put between others -/

/-- The comment that waits for a heading is lost on every other line. -/
theorem accept_with_doc_none (hd : s.draft = none) {form : LineForm} (hform : form.header? = none)
    (n : Nat) : ({ s with doc := none } : Progress).accept n form = s.accept n form := by
  have hfinish : ({ s with doc := none } : Progress).finish = .ok { s with doc := none } :=
    finish_of_draft_none hd
  cases form with
  | blank => rfl
  | remark =>
      show readBody n none { s with doc := none } = readBody n none s
      unfold readBody
      rw [hd]
  | entry template =>
      show readBody n (some template) { s with doc := none } = readBody n (some template) s
      unfold readBody
      rw [hd]
  | comment doc =>
      show (finish { s with doc := none } >>= _) = (s.finish >>= _)
      rw [hfinish, finish_of_draft_none hd]
      rfl
  | setting key value =>
      show (finish { s with doc := none } >>= readSet n key value) = (s.finish >>= readSet n key value)
      rw [hfinish, finish_of_draft_none hd, ok_bind, ok_bind]
      rfl
  | header line => cases hform

/-- A comment waits for a heading only directly below it. -/
theorem Outlines.isComment_getLast (hs : s.Outlines above) (hdoc : s.doc ≠ none) :
    ∃ line ∈ above.getLast?, Line.isComment line = true := by
  have hlast := hs.doc
  cases hget : above.getLast? with
  | none =>
      rw [hget] at hlast
      exact absurd hlast hdoc
  | some line =>
      refine ⟨line, rfl, ?_⟩
      by_contra hno
      rw [hget, Option.bind_some, Line.doc?_of_not_isComment (by simpa using hno)] at hlast
      exact hdoc hlast

/-- Unless a heading comes next, the comment of the last line is as good as none. -/
theorem Outlines.readLines_with_doc_none (hs : s.Outlines above)
    (hplace : ¬ ((∃ line ∈ above.getLast?, Line.isComment line = true) ∧
      ∃ line ∈ below.head?, Line.isHeading line = true))
    (h : (s.readLines n below >>= Progress.finish) = .ok s') :
    ∃ t', (({ s with doc := none } : Progress).readLines n below >>= Progress.finish) = .ok t' ∧
      t'.settings = s'.settings ∧ t'.recipes = s'.recipes := by
  by_cases hdoc : s.doc = none
  · have hsame : ({ s with doc := none } : Progress) = s := by rw [← hdoc]
    rw [hsame]
    exact ⟨s', h, rfl, rfl⟩
  · have hnone : s.draft = none := by
      by_contra hd
      obtain ⟨d, hd⟩ := Option.ne_none_iff_exists'.mp hd
      exact hdoc (hs.draft_doc d hd)
    cases below with
    | nil =>
        refine ⟨{ s' with doc := none }, ?_, rfl, rfl⟩
        show Progress.finish { s with doc := none } = _
        have hfinish : s.finish = .ok s' := h
        rw [finish_with_doc, hfinish]
        rfl
    | cons line below =>
        have hheading : Line.isHeading line = false := by
          by_contra hyes
          exact hplace ⟨hs.isComment_getLast hdoc, line, rfl, by simpa using hyes⟩
        have hform : (LineForm.of line).header? = none := by
          rw [LineForm.header?_of, hheading]
          rfl
        have hline : ({ s with doc := none } : Progress).readLine n line = s.readLine n line :=
          accept_with_doc_none hnone hform n
        refine ⟨s', ?_, rfl, rfl⟩
        rw [readLines_cons, hline, ← readLines_cons]
        exact h

/-- Below a heading and above the next outer line there is a recipe that is being read. -/
theorem exists_draft_of_inner {heading : Text} {inner : List Text}
    (hheading : Line.isHeading heading = true)
    (hinner : ∀ line ∈ inner, Line.isOuter line = false)
    (h : readLines {} 1 (above ++ heading :: inner) = .ok s) : ∃ d, s.draft = some d := by
  rw [readLines_append, bind_eq_ok_iff] at h
  obtain ⟨s₀, _, h⟩ := h
  rw [readLines_cons, bind_eq_ok_iff] at h
  obtain ⟨s₁, h₁, h⟩ := h
  have hd₁ : ∃ d, s₁.draft = some d := by
    unfold readLine at h₁
    rw [LineForm.of_eq_header_iff.mpr ⟨hheading, rfl⟩] at h₁
    obtain ⟨_, _, _, _, _, _, rfl⟩ := accept_header_eq_ok_iff.mp h₁
    exact ⟨_, rfl⟩
  refine readLines_induction (P := fun _ s => ∃ d, s.draft = some d) ?_ h hd₁
  rintro n s s' line hline ⟨d, hd⟩ hs
  -- a line that is not outer may add to the recipe, but does not end it
  have hform : (LineForm.of line).isOuter = false := by rw [LineForm.isOuter_of, hinner line hline]
  have hdraft := (accept_of_inner hform hs).2.1
  rw [hd, Option.map_some, Option.map_some, Option.map_eq_some_iff] at hdraft
  obtain ⟨d', hd', _⟩ := hdraft
  exact ⟨d', hd'⟩

/-- **An edit of the layout leaves the settings and the recipes alone**, but for the numbers of
lines. -/
theorem ofLines_of_layoutEdit {ls' : List Text} (hedit : LayoutEdit ls ls')
    (h : ofLines ls = .ok s) :
    ∃ s', ofLines ls' = .ok s' ∧ s'.settings = s.settings ∧
      s'.recipes.map Recipe.unplaced = s.recipes.map Recipe.unplaced := by
  cases hedit with
  | @indent above below b b' rest hb hb' =>
      have hforms : (above ++ (b' ++ rest) :: below).map LineForm.of =
          (above ++ (b ++ rest) :: below).map LineForm.of := by
        simp [LineForm.of_indentation_append hb, LineForm.of_indentation_append hb']
      exact ⟨s, by rw [ofLines_congr hforms, h], rfl, rfl⟩
  | @trail above below line b hb =>
      have hforms : (above ++ (line ++ b) :: below).map LineForm.of =
          (above ++ line :: below).map LineForm.of := by
        simp [LineForm.of_append_blank line hb]
      exact ⟨s, by rw [ofLines_congr hforms, h], rfl, rfl⟩
  | @blank above below b hb hplace =>
      obtain ⟨s₀, h₀, hrest⟩ := exists_readLines_of_ofLines h
      have hline : s₀.readLine (1 + above.length) b = .ok { s₀ with doc := none } := by
        unfold readLine
        rw [LineForm.of_isBlankText hb]
        rfl
      obtain ⟨s₁, h₁, hsettings, hrecipes⟩ :=
        (outlines_of_readLines h₀).readLines_with_doc_none hplace hrest
      -- the lines below are moved by one
      obtain ⟨s', h', hagree⟩ :=
        (Agrees.refl { s₀ with doc := none }).readLines_finish h₁ (1 + above.length + 1)
      refine ⟨s', ?_, ?_, ?_⟩
      · rw [ofLines_append h₀, readLines_cons, hline, ok_bind, h']
      · rw [← hagree.settings, hsettings]
      · rw [← hagree.recipes, hrecipes]
  | @remark above inner below heading b c hheading hinner hb =>
      rw [← List.cons_append, ← List.append_assoc] at h
      obtain ⟨s₀, h₀, hrest⟩ := exists_readLines_of_ofLines h
      have hdraft := exists_draft_of_inner hheading hinner h₀
      set n := 1 + (above ++ heading :: inner).length with hn
      have hline : s₀.readLine n (b ++ '#' :: c) = .ok s₀ := by
        unfold readLine
        rw [LineForm.of_indented_comment hb]
        exact accept_remark_eq_ok_iff.mpr ⟨hdraft, rfl⟩
      obtain ⟨s', h', hagree⟩ := (Agrees.refl s₀).readLines_finish hrest (n + 1)
      refine ⟨s', ?_, hagree.settings.symm, hagree.recipes.symm⟩
      rw [← List.cons_append, ← List.append_assoc, ofLines_append h₀, readLines_cons, hline,
        ok_bind, h']

end Progress

namespace Registry

/-- **Layout makes no difference.** An edit of the layout of a text that can be loaded gives a text
that can be loaded: the settings are the same, and the recipes are in the same order and have the
same names, parameters, bodies and documentation. Only the numbers of their lines may be others. -/
theorem ofText_of_layoutEdit {source : Option Path} {t u : Text} {reg : Registry}
    (h : ofText source t = .ok reg) (hedit : LayoutEdit (lines t) (lines u)) :
    ∃ reg', ofText source u = .ok reg' ∧ reg'.settings = reg.settings ∧
      reg'.recipes.map Recipe.unplaced = reg.recipes.map Recipe.unplaced := by
  obtain ⟨s, hs, rfl⟩ := ofText_eq_ok_iff.mp h
  obtain ⟨s', hs', hsettings, hrecipes⟩ := Progress.ofLines_of_layoutEdit hedit hs
  exact ⟨_, ofText_eq_ok_iff.mpr ⟨s', hs', rfl⟩, hsettings, hrecipes⟩

/-- A line of blanks below a comment that documents nothing, because a setting comes next, and an
indented comment directly below a heading. -/
theorem ofText_of_layoutEdit_two :
    let t := "# top\nset shell := ['sh']\n# says\nr:\n\n\tone\n".toList
    let u := "# top\n \t\nset shell := ['sh']\n# says\nr:\n\n\tone\n".toList
    let v := "# top\nset shell := ['sh']\n# says\nr:\n\t # x\n\n\tone\n".toList
    let reg : Registry := {
      recipes := [{ name := ['r'], body := ["one".toList], doc := some "says".toList, line := 4 }]
      settings := { shell := some ["sh".toList] } }
    ofText none t = .ok reg ∧
    (LayoutEdit (lines t) (lines u) ∧ ∃ reg', ofText none u = .ok reg' ∧
      reg'.settings = reg.settings ∧
      reg'.recipes.map Recipe.unplaced = reg.recipes.map Recipe.unplaced) ∧
    (LayoutEdit (lines t) (lines v) ∧ ∃ reg', ofText none v = .ok reg' ∧
      reg'.settings = reg.settings ∧
      reg'.recipes.map Recipe.unplaced = reg.recipes.map Recipe.unplaced) := by
  intro t u v reg
  have hload : ofText none t = .ok reg := by decide +kernel
  have hindent : IsIndentation ['\t', ' '] := ⟨by simp [IsBlankText, isBlank], rfl⟩
  have hu : LayoutEdit (lines t) (lines u) := by
    refine @LayoutEdit.blank ["# top".toList]
      ["set shell := ['sh']".toList, "# says".toList, "r:".toList, [], "\tone".toList] [' ', '\t']
      (by simp [IsBlankText, isBlank]) ?_
    rintro ⟨_, line, ⟨⟩, hheading⟩
    exact absurd hheading (by decide +kernel)
  have hv : LayoutEdit (lines t) (lines v) :=
    @LayoutEdit.remark ["# top".toList, "set shell := ['sh']".toList, "# says".toList] []
      [[], "\tone".toList] "r:".toList ['\t', ' '] " x".toList (by decide +kernel) (by simp) hindent
  exact ⟨hload, ⟨hu, ofText_of_layoutEdit hload hu⟩, ⟨hv, ofText_of_layoutEdit hload hv⟩⟩

end Registry

end Runbook
