import Runbook.Proofs.RecipeFile.Lists
import Runbook.Proofs.RecipeFile.Sections

set_option autoImplicit false

/-! # Registries are well formed

Whatever text is loaded, what comes out can be printed: names are identifiers, defaults and the
words of the shell have quoted forms, entries and documentation are phrases. The readers of the
parts give nothing else, because a line holds no break and a quoted text not its own mark. Between
two lines the complete recipes, the draft without its body, the settings and the comment that is
kept are printable; placeholders are looked at when a recipe is completed.
-/

namespace Runbook

open Text

/-! ## Parts of a line -/

namespace Text

variable {t u : Text}

/-- What holds only characters of a line is a line. -/
theorem IsLine.mono (hu : IsLine u) (h : t ⊆ u) : IsLine t := fun c hc => hu c (h hc)

theorem trimStart_subset (t : Text) : trimStart t ⊆ t := (List.dropWhile_sublist isBlank).subset

theorem isPrefix_trimEnd (t : Text) : trimEnd t <+: t := by
  obtain ⟨b, _, hcut⟩ := exists_append_trimEnd t
  exact ⟨b, hcut.symm⟩

theorem trim_subset (t : Text) : trim t ⊆ t :=
  List.Subset.trans (isPrefix_trimEnd _).subset (trimStart_subset t)

theorem isPhrase_trim (ht : IsLine t) (h : trim t ≠ []) : IsPhrase (trim t) :=
  ⟨ht.mono (trim_subset t), trim_trim t, h⟩

end Text

/-- What stands before a comment begins the line. -/
theorem isPrefix_of_beforeComment {open_ : Option Char} {t kept : Text}
    (h : beforeComment open_ t = some kept) : kept <+: t := by
  induction t generalizing open_ kept with
  | nil => cases h
  | cons c t ih =>
      have hcons : ∀ {next : Option Char}, (c :: ·) <$> beforeComment next t = some kept →
          kept <+: c :: t := by
        intro next hnext
        obtain ⟨rest, hrest, rfl⟩ := Option.map_eq_some_iff.mp hnext
        exact (List.prefix_cons_inj c).mpr (ih hrest)
      cases open_ with
      | some q => exact hcons h
      | none =>
          rw [beforeComment] at h
          split at h
          · exact hcons h
          · split at h
            · cases h
              exact List.nil_prefix
            · exact hcons h

theorem isPrefix_stripComment (t : Text) : stripComment t <+: t := by
  unfold stripComment
  split
  · next kept h => exact (isPrefix_trimEnd kept).trans (isPrefix_of_beforeComment h)
  · exact List.prefix_refl t

theorem Line.directive_subset (line : Text) : Line.directive line ⊆ line :=
  ((isPrefix_stripComment _).trans (isPrefix_trimEnd line)).subset

/-! ## What the readers give -/

/-- The text between the marks holds no mark of their kind, so that this kind quotes it again. -/
theorem WrittenQuote.isQuotable (q : WrittenQuote) (h : IsLine q.text) :
    IsQuotable q.content := by
  refine ⟨h.mono fun d hd => by simp [text, hd], ?_⟩
  have hfree := q.free
  rcases q.is_mark with hmark | hmark
  · rw [hmark] at hfree
    exact Or.inl hfree
  · rw [hmark] at hfree
    exact Or.inr hfree

/-- **A quoted text on a line can be quoted again.** -/
theorem isQuotable_of_quotes {content t : Text} (h : Quotes content t) (ht : IsLine t) :
    IsQuotable content := by
  obtain ⟨hmark, hfree⟩ := h
  exact WrittenQuote.isQuotable ⟨_, content, hmark, hfree⟩ ht

/-- Whether a parameter can be printed. -/
structure Parameter.Printable (p : Parameter) : Prop where
  named : isName p.name = true
  quotable : ∀ d ∈ p.default, IsQuotable d

/-- A parameter that is written on a line can be printed. -/
theorem WrittenParameter.printable (w : WrittenParameter) (h : IsLine w.text) :
    w.parameter.Printable := by
  refine ⟨w.named, fun d hd => ?_⟩
  obtain ⟨q, hq, rfl⟩ := Option.map_eq_some_iff.mp hd
  exact q.isQuotable (h.mono fun c hc => by simp [text, body, defaultText, hq, hc])

/-- The recipe of a header can be printed, as far as it is known. -/
theorem printable_of_declaration {line name : Text} {ps : List Parameter} (hline : IsLine line)
    (h : declaration line = .ok (name, ps)) :
    isName name = true ∧ OrderedParameters ps ∧ ∀ p ∈ ps, p.Printable := by
  obtain ⟨w, rfl, rfl, rfl, hord⟩ := declaration_eq_ok_iff_written.mp h
  refine ⟨w.named, hord, fun p hp => ?_⟩
  obtain ⟨v, hv, rfl⟩ := List.mem_map.mp hp
  refine v.printable (hline.mono fun c hc => ?_)
  have hmem : c ∈ parametersText w.parameters := List.mem_flatMap.mpr ⟨v, hv, hc⟩
  simp [WrittenHeader.text, hmem]

/-- The value of a setting is part of its line. -/
theorem isLine_of_readSetting {line key value : Text} (hline : IsLine line)
    (h : readSetting line = some (key, some value)) : IsLine value := by
  obtain ⟨c, rest, after, rfl, _, hkey, hafter⟩ := readSetting_eq_some_iff.mp h
  have hrest : IsLine after := by
    refine hline.mono fun d hd => ?_
    have hmem : d ∈ rest := by
      refine trimStart_subset rest ?_
      rw [readName_append hkey]
      exact List.mem_append_right key hd
    simp [hmem]
  rcases hafter with ⟨_, hvalue⟩ | ⟨v, hassign, hvalue⟩
  · cases hvalue
  · cases hvalue
    refine hrest.mono (List.Subset.trans (trim_subset v) fun d hd => ?_)
    refine trimStart_subset after ?_
    rw [hassign]
    simp [hd]

/-- The texts of a list on a line can be quoted again. -/
theorem isQuotable_of_spellsItems {t : Text} {items : List Text} (h : SpellsItems items t)
    (ht : IsLine t) : ∀ item ∈ items, IsQuotable item := by
  induction h with
  | nil => simp
  | last hq hb =>
      have hline := isQuotable_of_quotes hq (ht.mono (List.subset_append_left _ _))
      simpa using hline
  | cons hq hb hb' _ ih =>
      have hline := isQuotable_of_quotes hq (ht.mono (List.subset_append_left _ _))
      have hrest := ih (ht.mono fun d hd => by simp [hd])
      exact List.forall_mem_cons.mpr ⟨hline, hrest⟩

theorem isQuotable_of_readList {t : Text} {items : List Text} (ht : IsLine t)
    (h : readList t = some items) : ∀ item ∈ items, IsQuotable item := by
  obtain ⟨_, hitems⟩ := readList_eq_some_iff.mp h
  exact isQuotable_of_spellsItems hitems (ht.mono fun d hd => by simp [hd])

/-- **Settings that are given on a line can be printed.** -/
theorem FileSettings.Printable.give {s s' : FileSettings} {key : Text} {value : Option Text}
    (hs : s.Printable) (hvalue : ∀ v ∈ value, IsLine v) (h : s.give key value = .ok s') :
    s'.Printable := by
  rcases give_cases h with ⟨_, truth, hgive⟩ | ⟨_, items, hitems, hcommand, hgive⟩
  · cases h.symm.trans (hgive s)
    exact ⟨hs.quotable, hs.command⟩
  · cases h.symm.trans (hgive s)
    obtain ⟨v, hv, hread⟩ := Option.bind_eq_some_iff.mp hitems
    constructor
    · rintro words ⟨⟩
      exact isQuotable_of_readList (hvalue v hv) hread
    · rintro words ⟨⟩
      cases items with
      | nil => cases hcommand
      | cons command args => exact ⟨command, args, rfl, by simpa using hcommand⟩

/-! ## What a line gives -/

namespace LineForm

variable {line : Text}

theorem isPhrase_of_entry (hline : IsLine line) {template : Text}
    (h : of line = entry template) : IsPhrase template ∧ template.head? ≠ some '#' := by
  have hentry := template?_of line
  rw [h, template?, Line.template?] at hentry
  split at hentry
  · next hcond =>
      cases hentry
      simp only [Bool.and_eq_true, Bool.not_eq_true', bne_iff_ne, ne_eq] at hcond
      exact ⟨isPhrase_trim hline (by simpa using hcond.1.2), hcond.2⟩
  · cases hentry

theorem isPhrase_of_comment (hline : IsLine line) {doc : Option Text}
    (h : of line = comment doc) : ∀ d ∈ doc, IsPhrase d := by
  have hdoc := doc?_of line
  rw [h, doc?] at hdoc
  rintro d rfl
  unfold Line.doc? at hdoc
  split at hdoc
  · next rest =>
      split at hdoc
      · cases hdoc
      · next hne =>
          cases hdoc
          exact isPhrase_trim (hline.mono (List.subset_cons_self _ _)) (by simpa using hne)
  · cases hdoc

theorem isLine_of_setting (hline : IsLine line) {key : Text} {value : Option Text}
    (h : of line = setting key value) : ∀ v ∈ value, IsLine v := by
  have hsetting := setting?_of line
  rw [h, setting?, Line.setting?] at hsetting
  split at hsetting
  · rintro v rfl
    exact isLine_of_readSetting (hline.mono (Line.directive_subset line)) hsetting.symm
  · cases hsetting

theorem isLine_of_header (hline : IsLine line) {text : Text}
    (h : of line = header text) : IsLine text := by
  have hheader := header?_of line
  rw [h, header?] at hheader
  split at hheader
  · cases hheader
    exact hline.mono (Line.directive_subset line)
  · cases hheader

end LineForm

/-! ## The invariant -/

namespace Progress

/-- What holds between two lines. -/
structure WellFormed (s : Progress) : Prop where
  recipes : ∀ r ∈ s.recipes, r.Printable
  draft : ∀ d, s.draft = some d → { d.recipe with body := [] }.Printable ∧
    ∀ e ∈ d.recipe.body, IsPhrase e ∧ e.head? ≠ some '#'
  settings : s.settings.Printable
  doc : ∀ d ∈ s.doc, IsPhrase d
  distinct : (s.recipes.map (·.name) ++ (s.draft.map (·.recipe.name)).toList).Nodup

variable {s s' : Progress} {n : Nat} {line : Text}

theorem wellFormed_empty : WellFormed {} where
  recipes := by simp
  draft := by simp
  settings := ⟨by simp, by simp⟩
  doc := by simp
  distinct := by simp

theorem WellFormed.finish (hs : s.WellFormed) (h : s.finish = .ok s') : s'.WellFormed := by
  rcases finish_eq_ok_iff.mp h with ⟨_, rfl⟩ | ⟨d, hd, hu, rfl⟩
  · exact hs
  · obtain ⟨hempty, hentries⟩ := hs.draft d hd
    have hdeclared := undeclared?_eq_none_iff.mp hu
    have hdistinct := hs.distinct
    rw [hd] at hdistinct
    refine ⟨fun r hr => ?_, by simp, hs.settings, hs.doc, by simpa using hdistinct⟩
    rcases List.mem_append.mp hr with hr | hr
    · exact hs.recipes r hr
    · rw [List.mem_singleton.mp hr]
      -- All but the placeholders was known of the draft; that they are declared is known only now.
      refine ⟨hempty.named, hempty.ordered, hempty.parameters_named, hempty.defaults_quotable,
        fun e he => ?_, hempty.documented⟩
      exact ⟨(hentries e he).1, (hentries e he).2, hdeclared e he⟩

/-- **Every line keeps a well-formed state.** -/
theorem WellFormed.readLine (hs : s.WellFormed) (hline : IsLine line)
    (h : s.readLine n line = .ok s') : s'.WellFormed := by
  unfold Progress.readLine at h
  cases hform : LineForm.of line with
  | blank =>
      rw [hform] at h
      cases h
      exact ⟨hs.recipes, hs.draft, hs.settings, by simp, hs.distinct⟩
  | remark =>
      rw [hform] at h
      obtain ⟨_, rfl⟩ := accept_remark_eq_ok_iff.mp h
      exact hs
  | entry template =>
      rw [hform] at h
      obtain ⟨d, hd, rfl⟩ := accept_entry_eq_ok_iff.mp h
      obtain ⟨hempty, hentries⟩ := hs.draft d hd
      have hdistinct := hs.distinct
      rw [hd] at hdistinct
      refine ⟨hs.recipes, ?_, hs.settings, hs.doc, hdistinct⟩
      rintro _ ⟨⟩
      refine ⟨hempty, fun e he => ?_⟩
      rcases List.mem_append.mp he with he | he
      · exact hentries e he
      · rw [List.mem_singleton.mp he]
        exact LineForm.isPhrase_of_entry hline hform
  | comment doc =>
      rw [hform] at h
      obtain ⟨s₀, h₀, rfl⟩ := accept_comment_eq_ok_iff.mp h
      have hs₀ := hs.finish h₀
      exact ⟨hs₀.recipes, hs₀.draft, hs₀.settings, LineForm.isPhrase_of_comment hline hform,
        hs₀.distinct⟩
  | setting key value =>
      rw [hform] at h
      obtain ⟨s₀, settings, h₀, _, hgive, rfl⟩ := accept_setting_eq_ok_iff.mp h
      have hs₀ := hs.finish h₀
      have hvalue := LineForm.isLine_of_setting hline hform
      exact ⟨hs₀.recipes, hs₀.draft, hs₀.settings.give hvalue hgive, by simp, hs₀.distinct⟩
  | header text =>
      rw [hform] at h
      obtain ⟨s₀, name, parameters, h₀, hdecl, hnew, rfl⟩ := accept_header_eq_ok_iff.mp h
      have hs₀ := hs.finish h₀
      obtain ⟨hname, hord, hps⟩ :=
        printable_of_declaration (LineForm.isLine_of_header hline hform) hdecl
      have hdistinct := hs₀.distinct
      have hnotMem : name ∉ s₀.recipes.map (·.name) := by
        intro hmem
        obtain ⟨r, hr, heq⟩ := List.mem_map.mp hmem
        exact hnew r hr heq
      rw [draft_of_finish h₀] at hdistinct
      refine ⟨hs₀.recipes, ?_, hs₀.settings, by simp, ?_⟩
      · rintro _ ⟨⟩
        refine ⟨⟨hname, hord, fun p hp => (hps p hp).named, fun p hp => (hps p hp).quotable, ?_,
          hs₀.doc⟩, ?_⟩
        · intro e he
          cases he
        · intro e he
          cases he
      · refine List.nodup_append.mpr ⟨by simpa using hdistinct, by simp, ?_⟩
        rintro other hother _ hmem rfl
        rw [Option.map_some, Option.toList_some, List.mem_singleton] at hmem
        rw [hmem] at hother
        exact hnotMem hother

theorem wellFormed_of_ofLines {ls : List Text} (hls : ∀ line ∈ ls, IsLine line)
    (h : ofLines ls = .ok s) : s.WellFormed := by
  obtain ⟨s₁, h₁, h⟩ := bind_eq_ok_iff.mp h
  have hs₁ : s₁.WellFormed := readLines_induction (P := fun _ s => s.WellFormed)
    (fun n s s' line hline hs hl => hs.readLine (hls line hline) hl) h₁ wellFormed_empty
  exact hs₁.finish h

end Progress

/-! ## Registries -/

/-- The numbers of places grow. -/
theorem pairwise_places (ls : List Text) :
    (places ls).Pairwise fun p q => p.above.length < q.above.length := by
  have hrange : (places ls).map (·.above.length) = List.range ls.length := by
    induction ls using List.reverseRecOn with
    | nil => rfl
    | append_singleton ls line ih =>
        rw [places_concat, List.map_append, List.map_map, List.length_append, List.length_singleton,
          List.range_succ, ← ih]
        rfl
  have hlt := List.pairwise_lt_range (n := ls.length)
  rw [← hrange, List.pairwise_map] at hlt
  exact hlt

/-- Recipes at headings stand in the order of their lines. -/
theorem pairwise_line_of_standsAt {ls : List Text} {rs : List Recipe}
    (h : List.Forall₂ Recipe.StandsAt rs (headings ls)) : rs.Pairwise (·.line < ·.line) := by
  have hlines : rs.map (·.line) = (headings ls).map fun p => (p.above.length + 1 : Int) := by
    rw [← List.forall₂_eq_eq_eq, List.forall₂_map_left_iff, List.forall₂_map_right_iff]
    exact h.imp fun _ _ hr => hr.line
  have hplaces : ((headings ls).map fun p => (p.above.length + 1 : Int)).Pairwise (· < ·) := by
    rw [List.pairwise_map]
    exact ((pairwise_places ls).filter _).imp fun hlt => by omega
  rw [← hlines, List.pairwise_map] at hplaces
  exact hplaces

/-- What holds of every registry that is read from a text. The parts that can be printed are
identifiers, quotable defaults and words, parameters in order, and phrases as entries and
documentation, the placeholders of which are declared. -/
structure Registry.WellFormed (reg : Registry) : Prop where
  distinct : (reg.recipes.map (·.name)).Nodup
  found : ∀ r ∈ reg.recipes, reg.find? r.name = some r
  in_order : reg.recipes.Pairwise (·.line < ·.line)
  recipes : ∀ r ∈ reg.recipes, r.Printable
  settings : reg.settings.Printable

namespace Registry

/-- Where names are distinct, every recipe is found under its name. -/
theorem find?_eq_some_of_distinct {reg : Registry} (h : (reg.recipes.map (·.name)).Nodup)
    {r : Recipe} (hr : r ∈ reg.recipes) : reg.find? r.name = some r := by
  unfold find?
  cases hfind : reg.recipes.find? (·.name == r.name) with
  | none =>
      have := List.find?_eq_none.mp hfind r hr
      simp at this
  | some other =>
      have hname : other.name = r.name := by simpa using List.find?_some hfind
      rw [List.inj_on_of_nodup_map h (List.mem_of_find?_eq_some hfind) hr hname]

/-- **Every registry that is read from a text is well formed**, whether or not the text comes from
a file. -/
theorem wellFormed_of_ofText {source : Option Path} {t : Text} {reg : Registry}
    (h : ofText source t = .ok reg) : reg.WellFormed := by
  obtain ⟨s, hs, rfl⟩ := ofText_eq_ok_iff.mp h
  have hstate := Progress.wellFormed_of_ofLines isLine_of_mem_lines hs
  have hdistinct : (s.recipes.map (·.name)).Nodup :=
    (List.nodup_append.mp hstate.distinct).1
  exact {
    distinct := hdistinct
    found := fun r hr => find?_eq_some_of_distinct hdistinct hr
    in_order := pairwise_line_of_standsAt (Progress.standsAt_of_ofLines hs)
    recipes := hstate.recipes
    settings := hstate.settings }

/-- A file with quoted texts that hold a `#` or the other mark, blanks at the ends of its lines, and
a second recipe without a body. -/
theorem wellFormed_of_ofText_quoted :
    let t := "set shell := ['a b', \"it's\", '']\n# says #x\t\n".toList ++
      "r x y='\"#' *z: # no entry\n\t{{ x }}  \nq:".toList
    let reg : Registry := {
      recipes := [
        { name := ['r']
          parameters := [⟨['x'], none, false⟩, ⟨['y'], some ['"', '#'], false⟩, ⟨['z'], none, true⟩]
          body := ["{{ x }}".toList]
          doc := some "says #x".toList
          line := 3 },
        { name := ['q'], line := 5 }]
      settings := { shell := some ["a b".toList, "it's".toList, []] } }
    ofText none t = .ok reg ∧ reg.WellFormed := by
  intro t reg
  have hload : ofText none t = .ok reg := by decide +kernel
  exact ⟨hload, wellFormed_of_ofText hload⟩

end Registry

end Runbook
