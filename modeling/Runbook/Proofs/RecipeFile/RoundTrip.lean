import Runbook.Proofs.RecipeFile.Checked
import Runbook.Proofs.RecipeFile.Forms
import Runbook.Proofs.Text.Lines
import Runbook.RecipeFile.Printer

set_option autoImplicit false

/-! # What is printed is read back

Settings and recipes that have a written form at all are read back from their canonical text. The
printed parts are written forms, so the readers of the parts give them back; between two recipes
the reader is *ready*, with all the recipes before that place complete or to be completed.
-/

namespace Runbook

open Text

/-! ## What can be printed -/

/-- Whether a text has a quoted form on a line. -/
def IsQuotable (t : Text) : Prop := IsLine t ∧ ('"' ∉ t ∨ '\'' ∉ t)

/-- Whether a text can stand between other parts of a line that are not blank. -/
structure IsPhrase (t : Text) : Prop where
  line : IsLine t
  trimmed : trim t = t
  nonempty : t ≠ []

/-- The settings that have a written form. -/
structure FileSettings.Printable (s : FileSettings) : Prop where
  quotable : ∀ words ∈ s.shell, ∀ word ∈ words, IsQuotable word
  command : ∀ words ∈ s.shell, ∃ command args, words = command :: args ∧ command ≠ []

/-- The recipes that have a written form. -/
structure Recipe.Printable (r : Recipe) : Prop where
  named : isName r.name = true
  ordered : OrderedParameters r.parameters
  parameters_named : ∀ p ∈ r.parameters, isName p.name = true
  defaults_quotable : ∀ p ∈ r.parameters, ∀ d ∈ p.default, IsQuotable d
  entries : ∀ e ∈ r.body, IsPhrase e ∧ e.head? ≠ some '#' ∧ IsDeclaredIn r.parameters e
  documented : ∀ d ∈ r.doc, IsPhrase d

instance (t : Text) : Decidable (IsQuotable t) :=
  inferInstanceAs (Decidable (IsLine t ∧ _))

instance (t : Text) : Decidable (IsPhrase t) :=
  decidable_of_iff (IsLine t ∧ trim t = t ∧ t ≠ [])
    ⟨fun ⟨hl, ht, hn⟩ => ⟨hl, ht, hn⟩, fun ⟨hl, ht, hn⟩ => ⟨hl, ht, hn⟩⟩

instance (r : Recipe) : Decidable r.Printable :=
  decidable_of_iff
    (isName r.name = true ∧ OrderedParameters r.parameters ∧
      (∀ p ∈ r.parameters, isName p.name = true) ∧
      (∀ p ∈ r.parameters, ∀ d ∈ p.default, IsQuotable d) ∧
      (∀ e ∈ r.body, IsPhrase e ∧ e.head? ≠ some '#' ∧ IsDeclaredIn r.parameters e) ∧
      ∀ d ∈ r.doc, IsPhrase d)
    ⟨fun ⟨hn, ho, hp, hq, he, hd⟩ => ⟨hn, ho, hp, hq, he, hd⟩,
      fun ⟨hn, ho, hp, hq, he, hd⟩ => ⟨hn, ho, hp, hq, he, hd⟩⟩

/-- The recipe without the place of its header. -/
def Recipe.unplaced (r : Recipe) : Recipe := { r with line := 0 }

/-- Recipes that are the same but for their places have the same names. -/
theorem names_of_unplaced {rs rs' : List Recipe}
    (h : rs.map Recipe.unplaced = rs'.map Recipe.unplaced) :
    rs.map (·.name) = rs'.map (·.name) := by
  have hnames := congrArg (List.map (·.name)) h
  rw [List.map_map, List.map_map] at hnames
  exact hnames

/-! ## Printed parts are written forms -/

theorem quotes_quotedForm {t : Text} (h : IsQuotable t) : Quotes t (quotedForm t) := by
  have hfree : quoteMark t ∉ t := by
    unfold quoteMark
    split
    · next hmark =>
        rcases h.2 with hq | hq
        · exact absurd (List.contains_iff_mem.mp hmark) hq
        · exact hq
    · next hmark => exact fun hmem => hmark (List.contains_iff_mem.mpr hmem)
  have hmark : quoteMark t = '"' ∨ quoteMark t = '\'' := by
    unfold quoteMark
    split
    · exact Or.inr rfl
    · exact Or.inl rfl
  exact Quotes.intro hmark hfree

theorem Parameter.spells_printed {p : Parameter} (hname : isName p.name = true)
    (hdefault : ∀ d ∈ p.default, IsQuotable d) : p.Spells p.printed := by
  obtain ⟨name, default, star⟩ := p
  unfold Parameter.printed
  cases default with
  | none =>
      rw [List.append_nil]
      exact Spells.plain star hname
  | some d =>
      rw [List.append_assoc]
      exact Spells.withDefault star hname (quotes_quotedForm (hdefault d rfl))

/-- Texts put together begin with the first; the separator stands before each of the others. -/
theorem join_cons (sep t : Text) (ts : List Text) :
    join sep (t :: ts) = t ++ ts.flatMap (sep ++ ·) := by
  unfold join
  induction ts generalizing t with
  | nil => simp
  | cons u ts ih =>
      rw [List.intercalate_cons_cons, ih]
      simp

theorem spellsParameters_printed {ps : List Parameter}
    (hps : ∀ p ∈ ps, p.Spells p.printed) :
    SpellsParameters ps ((ps.map Parameter.printed).flatMap ([' '] ++ ·)) := by
  induction ps with
  | nil => exact SpellsParameters.nil
  | cons p ps ih =>
      rw [List.map_cons, List.flatMap_cons, List.append_assoc]
      exact SpellsParameters.cons isBlankText_space (by simp) (hps p (by simp))
        (ih fun q hq => hps q (by simp [hq]))

/-- A printed header is a written one. -/
theorem Recipe.Printable.spells_header {r : Recipe} (h : r.Printable) :
    SpellsHeader r.name r.parameters r.header := by
  have hps := spellsParameters_printed fun p hp =>
    Parameter.spells_printed (h.parameters_named p hp) (h.defaults_quotable p hp)
  have hspells := SpellsHeader.intro h.named hps isBlankText_nil isBlankText_nil
  unfold Recipe.header
  rw [join_cons, List.append_assoc]
  exact hspells

/-- The texts of a printed list, up to its bracket. -/
theorem spellsItems_printed {words : List Text} (hne : words ≠ [])
    (h : ∀ word ∈ words, IsQuotable word) :
    SpellsItems words (join [',', ' '] (words.map quotedForm) ++ [']']) := by
  induction words with
  | nil => exact absurd rfl hne
  | cons word words ih =>
      have hword := quotes_quotedForm (h word (by simp))
      cases words with
      | nil =>
          have hlast := SpellsItems.last hword isBlankText_nil
          simpa [join_cons] using hlast
      | cons next words =>
          have hrest := ih (by simp) fun w hw => h w (by simp [hw])
          have hcons := SpellsItems.cons hword isBlankText_nil isBlankText_space hrest
          simpa [join_cons] using hcons

/-! ## Printed lines -/

theorem isLine_of_isName {name : Text} (h : isName name = true) : IsLine name := by
  obtain ⟨_, _, _, _, hall⟩ := exists_cons_of_isName h
  intro c hc
  have hrest := (isNameRest_iff c).mp (hall c hc)
  by_contra hbreak
  rw [Bool.not_eq_false, isBreak_iff] at hbreak
  omega

theorem isLine_quotedForm {t : Text} (h : IsQuotable t) : IsLine (quotedForm t) := by
  have hmark : isBreak (quoteMark t) = false := by
    unfold quoteMark
    split <;> rfl
  exact isLine_append (isLine_cons hmark h.1) (isLine_cons hmark isLine_nil)

theorem isLine_join {sep : Text} {ts : List Text} (hsep : IsLine sep) (h : ∀ t ∈ ts, IsLine t) :
    IsLine (join sep ts) := by
  cases ts with
  | nil => exact isLine_nil
  | cons t ts =>
      rw [join_cons]
      exact isLine_append (h t (by simp))
        (isLine_flatMap fun u hu => isLine_append hsep (h u (by simp [hu])))

theorem isLine_starText (star : Bool) : IsLine (starText star) := by
  cases star with
  | true => exact isLine_cons rfl isLine_nil
  | false => exact isLine_nil

theorem Parameter.isLine_printed {p : Parameter} (hname : isName p.name = true)
    (hdefault : ∀ d ∈ p.default, IsQuotable d) : IsLine p.printed := by
  have hnamed := isLine_append (isLine_starText p.variadic) (isLine_of_isName hname)
  unfold Parameter.printed
  refine isLine_append hnamed ?_
  split
  · next d hd => exact isLine_cons rfl (isLine_quotedForm (hdefault d hd))
  · exact isLine_nil

theorem Recipe.Printable.isLine_header {r : Recipe} (h : r.Printable) : IsLine r.header := by
  have hparts : ∀ t ∈ r.name :: r.parameters.map Parameter.printed, IsLine t := by
    refine List.forall_mem_cons.mpr ⟨isLine_of_isName h.named, fun t ht => ?_⟩
    obtain ⟨p, hp, rfl⟩ := List.mem_map.mp ht
    exact Parameter.isLine_printed (h.parameters_named p hp) (h.defaults_quotable p hp)
  exact isLine_append (isLine_join (isLine_cons rfl isLine_nil) hparts)
    (isLine_cons rfl isLine_nil)

theorem Recipe.Printable.isLine_printed {r : Recipe} (h : r.Printable) :
    ∀ line ∈ r.printed, IsLine line := by
  intro line hline
  unfold Recipe.printed at hline
  rw [List.mem_cons, List.mem_append, List.mem_cons] at hline
  rcases hline with rfl | hdoc | rfl | hentry
  · exact isLine_nil
  · obtain ⟨d, hd, rfl⟩ := List.mem_map.mp hdoc
    exact isLine_cons rfl (isLine_cons rfl (h.documented d (by simpa using hd)).line)
  · exact h.isLine_header
  · obtain ⟨e, he, rfl⟩ := List.mem_map.mp hentry
    exact isLine_append (by decide) (h.entries e he).1.line

theorem FileSettings.Printable.isLine_printed {s : FileSettings} (h : s.Printable) :
    ∀ line ∈ s.printed, IsLine line := by
  intro line hline
  unfold FileSettings.printed at hline
  rcases List.mem_append.mp hline with hflag | hshell
  · split at hflag
    · rw [List.mem_singleton.mp hflag]
      decide
    · cases hflag
  · obtain ⟨words, hwords, rfl⟩ := List.mem_map.mp hshell
    have hitems : IsLine (join [',', ' '] (words.map quotedForm)) := by
      refine isLine_join (by decide) fun t ht => ?_
      obtain ⟨word, hword, rfl⟩ := List.mem_map.mp ht
      exact isLine_quotedForm (h.quotable words (by simpa using hwords) word hword)
    exact isLine_append (isLine_append (by decide) hitems)
      (isLine_cons rfl isLine_nil)

/-! ## The forms of printed lines -/

theorem of_printed_doc {d : Text} (h : IsPhrase d) :
    LineForm.of ("# ".toList ++ d) = .comment (some d) := by
  have htrim : trim (' ' :: d) = d := by
    have := trim_append_of_blank isBlankText_space d
    rw [h.trimmed] at this
    exact this
  have hform := LineForm.of_hash (' ' :: d)
  rw [htrim, if_neg h.nonempty] at hform
  exact hform

theorem of_printed_entry {e : Text} (h : IsPhrase e) (hhash : e.head? ≠ some '#') :
    LineForm.of (List.replicate 4 ' ' ++ e) = .entry e := by
  have hblank : IsBlankText (List.replicate 3 ' ') := by
    intro c hc
    rw [List.eq_of_mem_replicate hc]
    rfl
  have htrim : trim (List.replicate 3 ' ' ++ e) = e := by
    rw [trim_append_of_blank hblank, h.trimmed]
  have hform := LineForm.of_indented (Or.inl rfl) (by rw [htrim]; exact h.nonempty)
  rw [htrim, if_neg (by simpa using hhash)] at hform
  exact hform

theorem of_header {r : Recipe} (h : r.Printable) : LineForm.of r.header = .header r.header := by
  have hend : trimEnd r.header = r.header := trimEnd_of_last _ rfl
  have hform := LineForm.of_spellsHeader h.spells_header
  rwa [hend] at hform

/-! ## Reading a printed recipe -/

/-- The shell may be any list that begins with a command. -/
theorem FileSettings.give_shell (s : FileSettings) {value command : Text} {args : List Text}
    (hread : readList value = some (command :: args)) (hne : command ≠ []) :
    s.give "shell".toList (some value) = .ok { s with shell := some (command :: args) } := by
  have hempty : (command :: args).head?.all (·.isEmpty) = false := by simpa using hne
  unfold FileSettings.give
  rw [if_neg (by decide), if_pos (beq_self_eq_true _), Option.bind_some, hread]
  dsimp only
  rw [hempty]
  rfl

namespace Progress

/-- Between two recipes: once the current recipe is completed, the recipes are those of `done` and
the settings are as given. -/
def Ready (settings : FileSettings) (done : List Recipe) (s : Progress) : Prop :=
  ∃ s₀, s.finish = .ok s₀ ∧ s₀.settings = settings ∧
    s₀.recipes.map Recipe.unplaced = done.map Recipe.unplaced

variable {s : Progress} {settings : FileSettings} {done : List Recipe} {r : Recipe}

/-- The blank line and the comment above a header leave the comment for the header. -/
theorem Ready.readLines_doc (hs : s.Ready settings done) (h : r.Printable) (n : Nat) :
    ∃ s₁ s₀, s.readLines n ([] :: r.doc.toList.map ("# ".toList ++ ·)) = .ok s₁ ∧
      s₁.finish = .ok s₀ ∧ s₀.doc = r.doc ∧ s₀.settings = settings ∧
      s₀.recipes.map Recipe.unplaced = done.map Recipe.unplaced := by
  obtain ⟨s₀, hfinish, hsettings, hrecipes⟩ := hs
  have hblank : ({ s with doc := none } : Progress).finish = .ok { s₀ with doc := none } := by
    rw [finish_with_doc, hfinish]
    rfl
  have hfirst : s.readLine n [] = .ok { s with doc := none } := by
    unfold readLine
    rw [LineForm.of_isBlankText isBlankText_nil]
    rfl
  cases hdoc : r.doc with
  | none =>
      refine ⟨_, _, ?_, hblank, rfl, hsettings, hrecipes⟩
      rw [readLines_cons, hfirst]
      rfl
  | some d =>
      have hform := of_printed_doc (h.documented d hdoc)
      have hcomment : ({ s with doc := none } : Progress).readLine (n + 1) ("# ".toList ++ d) =
          .ok { s₀ with doc := some d } := by
        unfold readLine
        rw [hform]
        exact accept_comment_eq_ok_iff.mpr ⟨_, hblank, rfl⟩
      have hdraft : s₀.draft = none := draft_of_finish hfinish
      have hdone := finish_of_draft_none (s := { s₀ with doc := some d }) hdraft
      refine ⟨_, _, ?_, hdone, rfl, hsettings, hrecipes⟩
      rw [readLines_cons, hfirst, ok_bind, Option.toList_some, List.map_singleton,
        readLines_cons, hcomment]
      rfl

/-- Printed entries are added to the body of the current recipe. -/
theorem readLines_entries {es : List Text} (hes : ∀ e ∈ es, IsPhrase e ∧ e.head? ≠ some '#')
    (s : Progress) (d : Draft) (n : Nat) :
    ∃ numbers, ({ s with draft := some d } : Progress).readLines n
        (es.map (List.replicate 4 ' ' ++ ·)) =
      .ok { s with draft := some ⟨{ d.recipe with body := d.recipe.body ++ es }, numbers⟩ } := by
  induction es generalizing d n with
  | nil =>
      refine ⟨d.numbers, ?_⟩
      rw [List.append_nil]
      rfl
  | cons e es ih =>
      obtain ⟨hphrase, hhash⟩ := hes e (by simp)
      let d' : Draft := ⟨{ d.recipe with body := d.recipe.body ++ [e] }, d.numbers ++ [n]⟩
      have hline : ({ s with draft := some d } : Progress).readLine n
          (List.replicate 4 ' ' ++ e) = .ok { s with draft := some d' } := by
        unfold readLine
        rw [of_printed_entry hphrase hhash]
        exact accept_entry_eq_ok_iff.mpr ⟨d, rfl, rfl⟩
      obtain ⟨numbers, hrest⟩ := ih (fun e' he' => hes e' (by simp [he'])) d' (n + 1)
      refine ⟨numbers, ?_⟩
      rw [List.map_cons, readLines_cons, hline, ok_bind, hrest]
      simp [d']

/-- **A printed recipe is read back**: the reader is ready again, with the recipe done. -/
theorem Ready.readLines_printed (hs : s.Ready settings done) (h : r.Printable)
    (hnew : r.name ∉ done.map (·.name)) (n : Nat) :
    ∃ s', s.readLines n r.printed = .ok s' ∧ s'.Ready settings (done ++ [r]) := by
  obtain ⟨s₁, s₀, hdoc, hfinish, hs₀doc, hsettings, hrecipes⟩ := hs.readLines_doc h n
  -- a name is new among the recipes that were read, as it is among those that were printed
  have hnames : s₀.recipes.map (·.name) = done.map (·.name) := names_of_unplaced hrecipes
  have hnew' : ∀ r' ∈ s₀.recipes, r'.name ≠ r.name := by
    intro r' hr' heq
    rw [← hnames, ← heq] at hnew
    exact hnew (List.mem_map_of_mem hr')
  have hdecl := declaration_of_spells h.spells_header h.ordered
  set m := n + ([] :: r.doc.toList.map ("# ".toList ++ ·)).length with hm
  let d : Draft := ⟨{ r with body := [], line := m }, []⟩
  have hheader : s₁.readLine m r.header =
      .ok { s₀ with draft := some d, doc := none } := by
    unfold readLine
    rw [of_header h]
    refine accept_header_eq_ok_iff.mpr ⟨s₀, r.name, r.parameters, hfinish, hdecl, hnew', ?_⟩
    rw [hs₀doc]
  obtain ⟨numbers, hentries⟩ := readLines_entries
    (fun e he => ⟨(h.entries e he).1, (h.entries e he).2.1⟩) { s₀ with doc := none } d (m + 1)
  refine ⟨{ s₀ with draft := some ⟨{ r with line := m }, numbers⟩, doc := none }, ?_, ?_⟩
  · unfold Recipe.printed
    rw [← List.cons_append, readLines_append, hdoc, ok_bind, readLines_cons, hheader, ok_bind]
    exact hentries
  · have hdeclared : undeclared? { r with line := m } = none :=
      undeclared?_eq_none_iff.mpr fun e he => (h.entries e he).2.2
    refine ⟨_, finish_eq_ok_iff.mpr (Or.inr ⟨_, rfl, hdeclared, rfl⟩), hsettings, ?_⟩
    rw [List.map_append, List.map_append, hrecipes]
    rfl

/-- Printed recipes are read back, one after the other. -/
theorem Ready.readLines_recipes {rs : List Recipe} (hs : s.Ready settings done)
    (hrs : ∀ r ∈ rs, r.Printable) (hnames : ((done ++ rs).map (·.name)).Nodup) (n : Nat) :
    ∃ s', s.readLines n (rs.flatMap Recipe.printed) = .ok s' ∧
      s'.Ready settings (done ++ rs) := by
  induction rs generalizing s done n with
  | nil =>
      refine ⟨s, rfl, ?_⟩
      rwa [List.append_nil]
  | cons r rs ih =>
      have hnew : r.name ∉ done.map (·.name) := by
        rw [List.map_append, List.map_cons, List.nodup_middle, List.nodup_cons] at hnames
        exact fun hmem => hnames.1 (List.mem_append_left _ hmem)
      rw [List.append_cons] at hnames
      obtain ⟨s₁, hfirst, hs₁⟩ := hs.readLines_printed (hrs r (by simp)) hnew n
      obtain ⟨s', hrest, hs'⟩ := ih hs₁ (fun q hq => hrs q (by simp [hq])) hnames
        (n + r.printed.length)
      refine ⟨s', ?_, ?_⟩
      · rw [List.flatMap_cons, readLines_append, hfirst, ok_bind, hrest]
      · rwa [List.append_cons]

/-! ## Reading printed settings -/

theorem readLines_flag (on : Bool) :
    ∃ s, readLines {} 1 (if on then ["set positional-arguments".toList] else []) = .ok s ∧
      s.draft = none ∧ "shell".toList ∉ s.given ∧ s.recipes = [] ∧
      s.settings = { positionalArguments := on } := by
  cases on with
  | false => exact ⟨{}, rfl, rfl, by simp, rfl, rfl⟩
  | true =>
      have hname : isName "positional-arguments".toList = true := rfl
      have hgive : ({} : FileSettings).give "positional-arguments".toList none =
          .ok { positionalArguments := true } := rfl
      have hline : readLine {} 1 "set positional-arguments".toList =
          .ok { settings := { positionalArguments := true },
                given := ["positional-arguments".toList] } := by
        have hform : LineForm.of "set positional-arguments".toList =
            .setting "positional-arguments".toList none := LineForm.of_flag hname
        unfold readLine
        rw [hform]
        exact accept_setting_eq_ok_iff.mpr ⟨{}, _, rfl, by simp, hgive, rfl⟩
      have hother : "shell".toList ∉ ["positional-arguments".toList] := by decide
      refine ⟨{ settings := { positionalArguments := true },
                given := ["positional-arguments".toList] }, ?_, rfl, hother, rfl, rfl⟩
      rw [if_pos rfl, readLines_cons, hline]
      rfl

/-- A printed list of words is taken for the shell. -/
theorem readLine_shell {words : List Text} (hquotable : ∀ word ∈ words, IsQuotable word)
    (hcommand : ∃ command args, words = command :: args ∧ command ≠ [])
    (hdraft : s.draft = none) (hgiven : "shell".toList ∉ s.given) (n : Nat) :
    s.readLine n ("set shell := [".toList ++ join [',', ' '] (words.map quotedForm) ++ [']']) =
      .ok { s with
        settings := { s.settings with shell := some words }
        given := "shell".toList :: s.given
        doc := none } := by
  obtain ⟨command, args, rfl, hne⟩ := hcommand
  let value := '[' :: (join [',', ' '] ((command :: args).map quotedForm) ++ [']'])
  have hlist : SpellsList (command :: args) value :=
    SpellsList.intro (b := []) isBlankText_nil (spellsItems_printed (by simp) hquotable)
  have hend : trimEnd value = value :=
    trimEnd_of_last ('[' :: join [',', ' '] ((command :: args).map quotedForm)) rfl
  have htrim : trim value = value := trim_of_ends (trimStart_of_head rfl _) hend
  have hform : LineForm.of ("set shell := [".toList ++
      join [',', ' '] ((command :: args).map quotedForm) ++ [']']) =
      .setting "shell".toList (some value) := by
    have hname : isName "shell".toList = true := rfl
    rw [List.append_assoc]
    exact LineForm.of_assignment hname hlist.commentFree htrim (by simp)
  have hgive := s.settings.give_shell (readList_of_spells hlist) hne
  unfold readLine
  rw [hform]
  exact accept_setting_eq_ok_iff.mpr ⟨s, _, finish_of_draft_none hdraft, hgiven, hgive, rfl⟩

/-- **Printed settings are read back.** -/
theorem readLines_settings (hs : settings.Printable) :
    ∃ s, readLines {} 1 settings.printed = .ok s ∧ s.Ready settings [] := by
  obtain ⟨s, hflag, hdraft, hgiven, hrecipes, hsettings⟩ :=
    readLines_flag settings.positionalArguments
  unfold FileSettings.printed
  rw [readLines_append, hflag, ok_bind]
  cases hshell : settings.shell with
  | none =>
      refine ⟨s, rfl, s, finish_of_draft_none hdraft, ?_, ?_⟩
      · rw [hsettings, ← hshell]
      · rw [hrecipes]
  | some words =>
      have hline := fun n => readLine_shell (hs.quotable words hshell) (hs.command words hshell)
        hdraft hgiven n
      let s' : Progress := { s with
        settings := { s.settings with shell := some words }
        given := "shell".toList :: s.given
        doc := none }
      have hfinish : s'.finish = .ok s' := finish_of_draft_none hdraft
      refine ⟨s', ?_, s', hfinish, ?_, ?_⟩
      · rw [Option.toList_some, List.map_singleton, readLines_cons, hline]
        rfl
      · show { s.settings with shell := some words } = settings
        rw [hsettings, ← hshell]
      · show s.recipes.map Recipe.unplaced = [].map Recipe.unplaced
        rw [hrecipes]

end Progress

/-! ## Loading a printed file -/

/-- **A printed file is read back**: exactly the settings and the recipes that were printed, in
their order. -/
theorem load_printRecipeFile {s : FileSettings} {rs : List Recipe} (hs : s.Printable)
    (hrs : ∀ r ∈ rs, r.Printable) (hnames : (rs.map (·.name)).Nodup) :
    ∃ reg, Registry.load (printRecipeFile s rs) = .ok reg ∧ reg.settings = s ∧
      reg.recipes.map Recipe.unplaced = rs.map Recipe.unplaced := by
  have hlines : Text.lines (printRecipeFile s rs) = s.printed ++ rs.flatMap Recipe.printed := by
    refine lines_terminated fun line hline => ?_
    rcases List.mem_append.mp hline with hline | hline
    · exact hs.isLine_printed line hline
    · obtain ⟨r, hr, hline⟩ := List.mem_flatMap.mp hline
      exact (hrs r hr).isLine_printed line hline
  obtain ⟨s₁, hsettings, hready⟩ := Progress.readLines_settings hs
  obtain ⟨s₂, hrecipes, s₃, hfinish, hs₃, hrs₃⟩ :=
    hready.readLines_recipes hrs (by simpa using hnames) (1 + s.printed.length)
  have hrun : Progress.ofLines (s.printed ++ rs.flatMap Recipe.printed) = .ok s₃ := by
    unfold Progress.ofLines
    rw [Progress.readLines_append, hsettings, ok_bind, hrecipes, ok_bind, hfinish]
  rw [← hlines] at hrun
  exact ⟨_, Registry.load_eq_ok_iff.mpr ⟨s₃, hrun, rfl⟩, hs₃, hrs₃⟩

/-- The theorem at a recipe called `set`, with quoted texts that hold a `#` or the other mark. -/
theorem load_printRecipeFile_set :
    let s : FileSettings := { positionalArguments := true
                              shell := some ["bash".toList, "it's".toList, "\"#\"".toList, []] }
    let rs : List Recipe := [
      { name := "set".toList
        parameters := [⟨"shell".toList, none, false⟩, ⟨"b".toList, some "x # 'y".toList, false⟩,
          ⟨"rest".toList, some "\"".toList, true⟩]
        body := ["echo {{ shell }}{{b}} # {{rest}}".toList, "exit".toList]
        doc := some "# sets".toList },
      { name := "other".toList }]
    (s.Printable ∧ (∀ r ∈ rs, r.Printable) ∧ (rs.map (·.name)).Nodup) ∧
    ∃ reg, Registry.load (printRecipeFile s rs) = .ok reg ∧ reg.settings = s ∧
      reg.recipes.map Recipe.unplaced = rs.map Recipe.unplaced := by
  intro s rs
  have hquotable : ∀ words ∈ s.shell, ∀ word ∈ words, IsQuotable word := by decide
  have hcommand : ∀ words ∈ s.shell, ∃ command args, words = command :: args ∧ command ≠ [] := by
    intro words hwords
    cases hwords
    exact ⟨_, _, rfl, by decide⟩
  have hs : s.Printable := ⟨hquotable, hcommand⟩
  have hrs : ∀ r ∈ rs, r.Printable := by decide +kernel
  have hnames : (rs.map (·.name)).Nodup := by decide
  exact ⟨⟨hs, hrs, hnames⟩, load_printRecipeFile hs hrs hnames⟩

end Runbook
