import Runbook.Proofs.RecipeFile.Checked
import Runbook.Proofs.RecipeFile.Outline

set_option autoImplicit false

/-! # The sections of a recipe file

A recipe file is a sequence of sections, one for each heading: the heading, the lines below it up to
the next outer line, and the comment directly above it. The reader goes through the lines once and
keeps a draft and a comment in its state; what it reads is nevertheless said of each heading by
itself. The invariant is that the recipes read so far, the draft among them, stand at the headings
read so far, and that the comment kept is that of the last line.
-/

namespace Runbook

open Text

/-! ## Places -/

/-- A line with the lines above and below it. -/
structure Place where
  above : List Text
  line : Text
  below : List Text
  deriving DecidableEq, Repr

/-- The places of lines, in order. -/
def places (ls : List Text) : List Place :=
  ls.zipIdx.map fun (line, i) => ⟨ls.take i, line, ls.drop (i + 1)⟩

/-- The places of the headings, in order. -/
def headings (ls : List Text) : List Place := (places ls).filter fun p => Line.isHeading p.line

/-- The entries of a body, up to the next outer line. -/
def entries (ls : List Text) : List Text :=
  (ls.takeWhile fun line => !Line.isOuter line).filterMap Line.template?

/-- A place once a line has been added at the end. -/
def Place.push (p : Place) (line : Text) : Place := { p with below := p.below ++ [line] }

/-- Whether an outer line stands below. -/
def Place.IsClosed (p : Place) : Prop := ∃ line ∈ p.below, Line.isOuter line = true

variable {ls : List Text} {line : Text} {p : Place} {r : Recipe}

theorem places_concat (ls : List Text) (line : Text) :
    places (ls ++ [line]) = (places ls).map (·.push line) ++ [⟨ls, line, []⟩] := by
  unfold places
  rw [List.zipIdx_append, List.map_append, List.map_map]
  congr 1
  · refine List.map_congr_left fun ⟨l, i⟩ hmem => ?_
    have hi : i < ls.length := by
      have := (List.mem_zipIdx hmem).2.1
      omega
    show (⟨(ls ++ [line]).take i, l, (ls ++ [line]).drop (i + 1)⟩ : Place) =
      ⟨ls.take i, l, ls.drop (i + 1) ++ [line]⟩
    rw [List.take_append_of_le_length (by omega), List.drop_append_of_le_length (by omega)]
  · simp

theorem headings_concat (ls : List Text) (line : Text) :
    headings (ls ++ [line]) = (headings ls).map (·.push line) ++
      if Line.isHeading line then [⟨ls, line, []⟩] else [] := by
  unfold headings
  rw [places_concat, List.filter_append, List.filter_map]
  congr 1
  rw [List.filter_singleton]
  cases Line.isHeading line <;> rfl

/-! ## Bodies -/

theorem entries_append_of_closed (h : p.IsClosed) :
    entries (p.push line).below = entries p.below := by
  obtain ⟨l, hl, houter⟩ := h
  -- The body stops before the outer line, so that the new line is not looked at.
  have hstop : (p.below.takeWhile fun line => !Line.isOuter line).length ≠ p.below.length := by
    intro hlen
    have hall := List.takeWhile_eq_self_iff.mp
      (List.IsPrefix.eq_of_length (List.takeWhile_prefix _) hlen)
    simpa [houter] using hall l hl
  unfold entries Place.push
  dsimp only
  rw [List.takeWhile_append, if_neg hstop]

theorem entries_append_of_not_closed (h : ¬ p.IsClosed) :
    entries (p.push line).below =
      entries p.below ++ if Line.isOuter line then [] else (Line.template? line).toList := by
  -- No line below is outer, so that the body goes on to the new line.
  have hall : p.below.takeWhile (fun line => !Line.isOuter line) = p.below := by
    rw [List.takeWhile_eq_self_iff]
    intro l hl
    by_contra houter
    exact h ⟨l, hl, by simpa using houter⟩
  unfold entries Place.push
  dsimp only
  rw [List.takeWhile_append, hall, if_pos rfl, List.filterMap_append]
  congr 1
  cases houter : Line.isOuter line with
  | true => simp [houter]
  | false =>
      rw [List.takeWhile_cons]
      cases hentry : Line.template? line <;> simp [houter, hentry]

/-! ## Recipes at their headings -/

/-- Whether a recipe is what stands at a heading. -/
structure Recipe.StandsAt (r : Recipe) (p : Place) : Prop where
  line : r.line = p.above.length + 1
  declares : declaration (Line.directive p.line) = .ok (r.name, r.parameters)
  body : r.body = entries p.below
  doc : r.doc = p.above.getLast?.bind Line.doc?

namespace Recipe

/-- An outer line leaves a recipe alone and closes it. -/
theorem StandsAt.push_outer (h : r.StandsAt p) (hline : Line.isOuter line = true) :
    r.StandsAt (p.push line) ∧ (p.push line).IsClosed := by
  have hbody : entries (p.push line).below = entries p.below := by
    by_cases hclosed : p.IsClosed
    · exact entries_append_of_closed hclosed
    · rw [entries_append_of_not_closed hclosed, if_pos hline, List.append_nil]
  exact ⟨⟨h.line, h.declares, by rw [hbody, h.body], h.doc⟩, line, by simp [Place.push], hline⟩

/-- A line below the end of a recipe leaves it alone. -/
theorem StandsAt.push_closed (h : r.StandsAt p) (hclosed : p.IsClosed) :
    r.StandsAt (p.push line) ∧ (p.push line).IsClosed := by
  obtain ⟨l, hl, houter⟩ := hclosed
  refine ⟨⟨h.line, h.declares, ?_, h.doc⟩, l, by simp [Place.push, hl], houter⟩
  rw [entries_append_of_closed ⟨l, hl, houter⟩, h.body]

/-- A line that is not outer adds its entry to a recipe that has not ended. -/
theorem StandsAt.push_inner (h : r.StandsAt p) (hopen : ¬ p.IsClosed)
    (hline : Line.isOuter line = false) :
    { r with body := r.body ++ (Line.template? line).toList }.StandsAt (p.push line) ∧
      ¬ (p.push line).IsClosed := by
  refine ⟨⟨h.line, h.declares, ?_, h.doc⟩, ?_⟩
  · rw [entries_append_of_not_closed hopen, hline, h.body]
    rfl
  · rintro ⟨l, hl, houter⟩
    rcases List.mem_append.mp hl with hl | hl
    · exact hopen ⟨l, hl, houter⟩
    · rw [List.mem_singleton.mp hl, hline] at houter
      cases houter

end Recipe

namespace Progress

variable {s s' : Progress} {n : Nat} {form : LineForm}

/-! ## Lines that are not outer, and lines that are -/

/-- A line that is not outer adds its entry to the draft, if it has one. -/
theorem accept_of_inner (hform : form.isOuter = false) (h : s.accept n form = .ok s') :
    s'.recipes = s.recipes ∧
    s'.draft.map (·.recipe) = (s.draft.map (·.recipe)).map (fun r =>
      { r with body := r.body ++ form.template?.toList }) ∧
    (s'.doc = none ∨ s'.doc = s.doc ∧ ∃ d, s.draft = some d) := by
  have hsame : ∀ r? : Option Recipe, r? = r?.map fun r => { r with body := r.body ++ [] } := by
    rintro (_ | r)
    · rfl
    · simp
  cases form with
  | blank =>
      cases h
      exact ⟨rfl, hsame _, Or.inl rfl⟩
  | remark =>
      obtain ⟨hd, rfl⟩ := accept_remark_eq_ok_iff.mp h
      exact ⟨rfl, hsame _, Or.inr ⟨rfl, hd⟩⟩
  | entry template =>
      obtain ⟨d, hd, rfl⟩ := accept_entry_eq_ok_iff.mp h
      exact ⟨rfl, by simp [hd, LineForm.template?], Or.inr ⟨rfl, d, hd⟩⟩
  | comment doc => cases hform
  | setting key value => cases hform
  | header line => cases hform

/-- An outer line completes the draft, and begins a new one if it is a header. -/
theorem accept_of_outer (hform : form.isOuter = true) (h : s.accept n form = .ok s') :
    ∃ s₀, s.finish = .ok s₀ ∧ s'.recipes = s₀.recipes ∧ s'.doc = form.doc? ∧
      match form.header? with
      | none => s'.draft = none
      | some line => ∃ name parameters, declaration line = .ok (name, parameters) ∧
          s'.draft = some ⟨{ name, parameters, doc := s₀.doc, line := n }, []⟩ := by
  cases form with
  | blank => cases hform
  | remark => cases hform
  | entry template => cases hform
  | comment doc =>
      obtain ⟨s₀, h₀, rfl⟩ := accept_comment_eq_ok_iff.mp h
      have hd := draft_of_finish h₀
      exact ⟨s₀, h₀, rfl, rfl, hd⟩
  | setting key value =>
      obtain ⟨s₀, settings, h₀, _, _, rfl⟩ := accept_setting_eq_ok_iff.mp h
      have hd := draft_of_finish h₀
      exact ⟨s₀, h₀, rfl, rfl, hd⟩
  | header line =>
      obtain ⟨s₀, name, parameters, h₀, hdecl, _, rfl⟩ := accept_header_eq_ok_iff.mp h
      exact ⟨s₀, h₀, rfl, rfl, name, parameters, hdecl, rfl⟩

/-! ## The invariant -/

/-- What the lines read so far have to do with the state: the complete recipes stand at headings
whose recipe has ended, the draft at the last heading, and the comment is that of the last line. -/
structure Outlines (s : Progress) (ls : List Text) : Prop where
  recipes : ∃ done last, headings ls = done ++ last ∧
    List.Forall₂ (fun r p => r.StandsAt p ∧ p.IsClosed) s.recipes done ∧
    List.Forall₂ (fun r p => r.StandsAt p ∧ ¬ p.IsClosed) (s.draft.map (·.recipe)).toList last
  doc : s.doc = ls.getLast?.bind Line.doc?
  draft_doc : ∀ d, s.draft = some d → s.doc = none

theorem outlines_empty : Outlines {} [] := by
  refine ⟨⟨[], [], rfl, List.Forall₂.nil, List.Forall₂.nil⟩, rfl, ?_⟩
  intro d hd
  cases hd

/-- Once the draft is completed, every heading has its recipe. -/
theorem Outlines.finish (hs : s.Outlines ls) (h : s.finish = .ok s') :
    List.Forall₂ Recipe.StandsAt s'.recipes (headings ls) := by
  obtain ⟨done, last, hheadings, hdone, hlast⟩ := hs.recipes
  have hdone' := hdone.imp fun _ _ h => h.1
  have hlast' := hlast.imp fun _ _ h => h.1
  rw [hheadings]
  rcases finish_eq_ok_iff.mp h with ⟨hd, rfl⟩ | ⟨d, hd, _, rfl⟩
  · rw [hd] at hlast'
    cases hlast'
    rwa [List.append_nil]
  · rw [hd] at hlast'
    exact List.rel_append hdone' hlast'

theorem Outlines.readLine_inner (hs : s.Outlines ls) (hline : Line.isOuter line = false)
    (h : s.readLine n line = .ok s') : s'.Outlines (ls ++ [line]) := by
  have hform : (LineForm.of line).isOuter = false := by rw [LineForm.isOuter_of, hline]
  have hheading : Line.isHeading line = false := by simp [Line.isHeading, hline]
  have hcomment : Line.doc? line = none := by
    refine Line.doc?_of_not_isComment ?_
    by_contra hc
    rw [Line.isOuter_of_isComment (by simpa using hc)] at hline
    cases hline
  obtain ⟨hrecipes, hdraft, hdoc⟩ := accept_of_inner hform h
  obtain ⟨done, last, hheadings, hdone, hlast⟩ := hs.recipes
  -- The comment that is kept is that of the last line: what is read inside a recipe keeps one only
  -- by leaving the state alone, and there is none then.
  have hnone : s'.doc = none := by
    rcases hdoc with hdoc | ⟨hdoc, d, hd⟩
    · exact hdoc
    · rw [hdoc, hs.draft_doc d hd]
  refine ⟨⟨done.map (·.push line), last.map (·.push line), ?_, ?_, ?_⟩, ?_, fun _ _ => hnone⟩
  · rw [headings_concat, hheadings, hheading, List.map_append]
    simp
  · rw [hrecipes, List.forall₂_map_right_iff]
    exact hdone.imp fun _ _ h => h.1.push_closed h.2
  · rw [hdraft, Option.toList_map, LineForm.template?_of, List.forall₂_map_left_iff,
      List.forall₂_map_right_iff]
    exact hlast.imp fun _ _ h => h.1.push_inner h.2 hline
  · rw [hnone, List.getLast?_concat, Option.bind_some, hcomment]

theorem Outlines.readLine_outer (hs : s.Outlines ls) (hline : Line.isOuter line = true)
    (h : s.readLine (ls.length + 1) line = .ok s') : s'.Outlines (ls ++ [line]) := by
  have hform : (LineForm.of line).isOuter = true := by rw [LineForm.isOuter_of, hline]
  obtain ⟨s₀, hfinish, hrecipes, hdoc, hdraft⟩ := accept_of_outer hform h
  -- The draft has been completed, and the line closes all headings above it.
  have hclosed : List.Forall₂ (fun r p => r.StandsAt p ∧ p.IsClosed) s'.recipes
      ((headings ls).map (·.push line)) := by
    rw [hrecipes, List.forall₂_map_right_iff]
    exact (hs.finish hfinish).imp fun _ _ h => h.push_outer hline
  have hlast : s'.doc = (ls ++ [line]).getLast?.bind Line.doc? := by
    rw [hdoc, LineForm.doc?_of, List.getLast?_concat, Option.bind_some]
  rw [LineForm.header?_of] at hdraft
  cases hheading : Line.isHeading line with
  | false =>
      rw [hheading] at hdraft
      refine ⟨⟨_, [], ?_, hclosed, ?_⟩, hlast, ?_⟩
      · rw [headings_concat, hheading]
        simp
      · rw [hdraft]
        exact List.Forall₂.nil
      · intro d hd
        rw [hdraft] at hd
        cases hd
  | true =>
      rw [hheading] at hdraft
      obtain ⟨name, parameters, hdecl, hdraft⟩ := hdraft
      have hnone : s'.doc = none := by
        rw [hdoc, LineForm.doc?_of]
        refine Line.doc?_of_not_isComment ?_
        simp only [Line.isHeading, Bool.and_eq_true, Bool.not_eq_true'] at hheading
        exact hheading.1.2
      refine ⟨⟨_, [⟨ls, line, []⟩], ?_, hclosed, ?_⟩, hlast, fun _ _ => hnone⟩
      · rw [headings_concat, hheading]
        rfl
      · rw [hdraft]
        refine List.Forall₂.cons ⟨⟨rfl, hdecl, rfl, ?_⟩, ?_⟩ List.Forall₂.nil
        · show s₀.doc = _
          rw [doc_of_finish hfinish, hs.doc]
        · rintro ⟨l, hl, _⟩
          cases hl

/-- Every line keeps the invariant. -/
theorem outlines_of_readLines (h : readLines {} 1 ls = .ok s) : s.Outlines ls := by
  induction ls using List.reverseRecOn generalizing s with
  | nil =>
      cases h
      exact outlines_empty
  | append_singleton ls line ih =>
      rw [readLines_concat, bind_eq_ok_iff] at h
      obtain ⟨s₁, h₁, h⟩ := h
      rw [Nat.add_comm] at h
      cases hline : Line.isOuter line with
      | false => exact (ih h₁).readLine_inner hline h
      | true => exact (ih h₁).readLine_outer hline h

/-- The recipes of a file are those at its headings. -/
theorem standsAt_of_ofLines (h : ofLines ls = .ok s) :
    List.Forall₂ Recipe.StandsAt s.recipes (headings ls) := by
  obtain ⟨s₁, h₁, hfinish⟩ := bind_eq_ok_iff.mp h
  exact (outlines_of_readLines h₁).finish hfinish

end Progress

/-! ## The names of recipes -/

theorem map_line_places (ls : List Text) : (places ls).map (·.line) = ls := by
  induction ls using List.reverseRecOn with
  | nil => rfl
  | append_singleton ls line ih =>
      rw [places_concat, List.map_append, List.map_map]
      congr 1

/-- A heading declares a recipe of the name with which it begins. -/
theorem headingName?_of_declaration {name : Text} {parameters : List Parameter}
    (hline : Line.isHeading line = true)
    (h : declaration (Line.directive line) = .ok (name, parameters)) :
    Line.headingName? line = some name := by
  obtain ⟨tail, hread, _, _⟩ := declaration_eq_ok_iff.mp h
  obtain ⟨⟨name', rest⟩, hname, heq⟩ := Option.map_eq_some_iff.mp hread
  unfold Line.headingName?
  rw [if_pos hline, hname, Option.map_some, ← (Prod.mk.inj heq).1]

/-- The names of the recipes are those of the headings. -/
theorem names_of_standsAt {rs : List Recipe} (h : List.Forall₂ Recipe.StandsAt rs (headings ls)) :
    rs.map (·.name) = ls.filterMap Line.headingName? := by
  have hnames : ∀ {rs : List Recipe} {ps : List Place}, List.Forall₂ Recipe.StandsAt rs ps →
      (∀ p ∈ ps, Line.isHeading p.line = true) →
      rs.map (·.name) = ps.filterMap fun p => Line.headingName? p.line := by
    intro rs ps h
    induction h with
    | nil => exact fun _ => rfl
    | cons hr _ ih =>
        intro hps
        have hname := headingName?_of_declaration (hps _ List.mem_cons_self) hr.declares
        rw [List.map_cons, ih fun p hp => hps p (List.mem_cons_of_mem _ hp),
          List.filterMap_cons, hname]
  calc rs.map (·.name)
      = (headings ls).filterMap fun p => Line.headingName? p.line :=
        hnames h fun p hp => (List.mem_filter.mp hp).2
    _ = (places ls).filterMap fun p => Line.headingName? p.line := by
        -- A line that heads no recipe has no name, so that leaving it out changes nothing.
        unfold headings
        rw [List.filterMap_filter]
        refine List.filterMap_congr fun p _ => ?_
        cases hp : Line.isHeading p.line <;> simp [Line.headingName?, hp]
    _ = ((places ls).map (·.line)).filterMap Line.headingName? := by
        rw [List.filterMap_map]
        rfl
    _ = ls.filterMap Line.headingName? := by rw [map_line_places]

namespace Registry

/-- **The recipes of a file are its sections**: one for each heading, in the order of the file, with
the number of its line, the name and the parameters that it declares, the entries below it up to the
next outer line, and the documentation that the line directly above it gives. -/
theorem recipes_standsAt_headings {t : Text} {reg : Registry} (h : load t = .ok reg) :
    List.Forall₂ Recipe.StandsAt reg.recipes (headings (lines t)) := by
  obtain ⟨s, hs, rfl⟩ := load_eq_ok_iff.mp h
  exact Progress.standsAt_of_ofLines hs

/-- Two sections: a blank line keeps the first comment from its heading, and the second heading
begins like a setting. -/
theorem recipes_standsAt_headings_two :
    let t := "# top\n\na x:\n  one {{x}}\n\n # no entry\n\ttwo\n".toList ++
      "set shell := ['sh']\n#  says b \nset b:\r\n three".toList
    let reg : Registry := {
      recipes := [
        { name := ['a']
          parameters := [⟨['x'], none, false⟩]
          body := ["one {{x}}".toList, "two".toList]
          line := 3 },
        { name := "set".toList
          parameters := [⟨['b'], none, false⟩]
          body := ["three".toList]
          doc := some "says b".toList
          line := 10 }]
      settings := { shell := some ["sh".toList] } }
    load t = .ok reg ∧ List.Forall₂ Recipe.StandsAt reg.recipes (headings (lines t)) := by
  intro t reg
  have hload : load t = .ok reg := by decide +kernel
  exact ⟨hload, recipes_standsAt_headings hload⟩

end Registry

end Runbook
