import Runbook.Proofs.RecipeFile.Sections
import Runbook.Proofs.Text.Lines

set_option autoImplicit false

/-! # One recipe file after the other

Two recipe files with an empty line between them are read as one, whose recipes are those of both.
The reader goes through the second file as it would from its empty state, but for what it holds from
the first: the recipes, and the settings given. Up to the first outer line of the second file the
last recipe of the first is still a draft, so that until then the two states agree only once that is
completed. All that the second file can meet of the first is a name or a setting that it gives
again; the first line that does so is the one at which the two files are rejected.
-/

namespace Runbook

open Text

/-! ## What two files give together -/

/-- A recipe the header of which stands some lines further down. -/
def Recipe.moved (n : Nat) (r : Recipe) : Recipe := { r with line := r.line + n }

/-- The settings of two files that give no setting twice. -/
def FileSettings.merge (s t : FileSettings) : FileSettings where
  positionalArguments := s.positionalArguments || t.positionalArguments
  shell := s.shell <|> t.shell

/-- The recipes and the settings of two files, the second of which stands `n` lines further down. -/
def Registry.followedBy (a : Registry) (n : Nat) (b : Registry) : Registry where
  recipes := a.recipes ++ b.recipes.map (Recipe.moved n)
  settings := a.settings.merge b.settings

/-- The names of the settings that lines give. -/
def settingKeys (ls : List Text) : List Text := ls.filterMap Line.key?

/-- Whether a line heads a recipe with one of some names, or gives one of some settings. -/
def Line.repeats (names keys : List Text) (line : Text) : Bool :=
  (Line.headingName? line).any names.contains || (Line.key? line).any keys.contains

/-- The fault of a line, of number `n`, that heads a recipe with the name of another or gives a
setting that is given. -/
inductive Repetition (recipes : List Recipe) (keys : List Text) (line : Text) (n : Nat) :
    LoadFault → Prop
  | recipe {name : Text} {r : Recipe} (hname : Line.headingName? line = some name)
      (hr : recipes.find? (·.name == name) = some r) :
      Repetition recipes keys line n (.repeatedRecipe name r.line n)
  | setting {key : Text} (hkey : Line.key? line = some key) (hgiven : key ∈ keys) :
      Repetition recipes keys line n (.atLine n (.repeatedSetting key))

/-! ## Settings that are not given -/

namespace FileSettings

variable {s s' t t' : FileSettings} {key other : Text} {value : Option Text}

/-- Whether a setting has its default, if it is one. -/
structure IsUnset (s : FileSettings) (key : Text) : Prop where
  arguments : key = "positional-arguments".toList → s.positionalArguments = false
  shell : key = "shell".toList → s.shell = none

theorem isUnset_default (key : Text) : IsUnset {} key := ⟨fun _ => rfl, fun _ => rfl⟩

/-- One setting leaves the others alone. -/
theorem IsUnset.give (hs : s.IsUnset other) (hne : key ≠ other) (h : s.give key value = .ok s') :
    s'.IsUnset other := by
  rcases give_cases h with ⟨rfl, truth, hgive⟩ | ⟨rfl, items, _, _, hgive⟩
  · cases h.symm.trans (hgive s)
    exact ⟨fun hother => absurd hother.symm hne, hs.shell⟩
  · cases h.symm.trans (hgive s)
    exact ⟨hs.arguments, fun hother => absurd hother.symm hne⟩

/-- A setting that the first file does not give is given to both as it is to the second. -/
theorem give_merge (hs : s.IsUnset key) (h : t.give key value = .ok t') :
    (s.merge t).give key value = .ok (s.merge t') := by
  rcases give_cases h with ⟨hkey, truth, hgive⟩ | ⟨hkey, items, _, _, hgive⟩
  · cases h.symm.trans (hgive t)
    rw [hgive, merge, merge, hs.arguments hkey]
    rfl
  · cases h.symm.trans (hgive t)
    rw [hgive, merge, merge, hs.shell hkey]
    rfl

theorem merge_default (s : FileSettings) : s.merge {} = s := by
  obtain ⟨positionalArguments, shell⟩ := s
  simp [merge]

end FileSettings

/-! ## The settings that lines give -/

namespace Progress

variable {a b b' c s s' : Progress} {n k : Nat} {form : LineForm} {ls : List Text} {line : Text}

/-- What the lines read so far have to do with the settings of the state. -/
structure Gives (s : Progress) (ls : List Text) : Prop where
  given : s.given = (settingKeys ls).reverse
  unset : ∀ key, key ∉ s.given → s.settings.IsUnset key

/-- Only a setting changes the settings. -/
theorem accept_settings (h : s.accept n form = .ok s') :
    match form.setting? with
    | none => s'.given = s.given ∧ s'.settings = s.settings
    | some (key, value) =>
        s'.given = key :: s.given ∧ s.settings.give key value = .ok s'.settings := by
  cases form with
  | blank =>
      cases h
      exact ⟨rfl, rfl⟩
  | remark =>
      obtain ⟨_, rfl⟩ := accept_remark_eq_ok_iff.mp h
      exact ⟨rfl, rfl⟩
  | entry template =>
      obtain ⟨d, _, rfl⟩ := accept_entry_eq_ok_iff.mp h
      exact ⟨rfl, rfl⟩
  | comment doc =>
      obtain ⟨s₀, h₀, rfl⟩ := accept_comment_eq_ok_iff.mp h
      have hgiven := given_of_finish h₀
      have hsettings := settings_of_finish h₀
      exact ⟨hgiven, hsettings⟩
  | setting key value =>
      obtain ⟨s₀, settings, h₀, _, hgive, rfl⟩ := accept_setting_eq_ok_iff.mp h
      rw [settings_of_finish h₀] at hgive
      exact ⟨congrArg _ (given_of_finish h₀), hgive⟩
  | header text =>
      obtain ⟨s₀, name, parameters, h₀, _, _, rfl⟩ := accept_header_eq_ok_iff.mp h
      have hgiven := given_of_finish h₀
      have hsettings := settings_of_finish h₀
      exact ⟨hgiven, hsettings⟩

theorem Gives.readLine (hs : s.Gives ls) (h : s.readLine n line = .ok s') :
    s'.Gives (ls ++ [line]) := by
  have hstep := accept_settings h
  have hkeys : settingKeys (ls ++ [line]) = settingKeys ls ++ (Line.key? line).toList := by
    unfold settingKeys
    rw [List.filterMap_append]
    cases hkey : Line.key? line <;> simp [hkey]
  rw [LineForm.setting?_of] at hstep
  unfold Line.key? at hkeys
  cases hset : Line.setting? line with
  | none =>
      rw [hset] at hstep hkeys
      refine ⟨?_, ?_⟩
      · rw [hstep.1, hs.given, hkeys]
        simp
      · rw [hstep.1, hstep.2]
        exact hs.unset
  | some setting =>
      obtain ⟨key, value⟩ := setting
      rw [hset] at hstep hkeys
      refine ⟨?_, fun other hother => ?_⟩
      · rw [hstep.1, hs.given, hkeys]
        simp
      · rw [hstep.1, List.mem_cons, not_or] at hother
        exact (hs.unset other hother.2).give (Ne.symm hother.1) hstep.2

theorem gives_of_readLines (h : readLines {} 1 ls = .ok s) : s.Gives ls := by
  induction ls using List.reverseRecOn generalizing s with
  | nil =>
      cases h
      exact ⟨rfl, fun key _ => FileSettings.isUnset_default key⟩
  | append_singleton ls line ih =>
      rw [readLines_concat, bind_eq_ok_iff] at h
      obtain ⟨s₁, h₁, h⟩ := h
      exact (ih h₁).readLine h

theorem gives_of_ofLines (h : ofLines ls = .ok s) : s.Gives ls := by
  obtain ⟨s₁, h₁, hfinish⟩ := bind_eq_ok_iff.mp h
  have hgives := gives_of_readLines h₁
  refine ⟨?_, ?_⟩
  · rw [given_of_finish hfinish, hgives.given]
  · rw [given_of_finish hfinish, settings_of_finish hfinish]
    exact hgives.unset

/-! ## Two states together -/

/-- A state together with the state of another file that stands `n` lines further down. -/
def join (a : Progress) (n : Nat) (b : Progress) : Progress where
  recipes := a.recipes ++ b.recipes.map (Recipe.moved n)
  settings := a.settings.merge b.settings
  given := b.given ++ a.given
  draft := b.draft.map fun d => ⟨d.recipe.moved n, d.numbers.map (· + n)⟩
  doc := b.doc

theorem finish_join (a : Progress) (n : Nat) (h : b.finish = .ok b') :
    (a.join n b).finish = .ok (a.join n b') := by
  rcases finish_eq_ok_iff.mp h with ⟨hd, rfl⟩ | ⟨d, hd, hdeclared, rfl⟩
  · exact finish_of_draft_none (by simp [join, hd])
  · have hjoin : (a.join n b).draft = some ⟨d.recipe.moved n, d.numbers.map (· + n)⟩ := by
      rw [join, hd]
      rfl
    refine finish_eq_ok_iff.mpr (Or.inr ⟨_, hjoin, hdeclared, ?_⟩)
    simp [join]

/-- Whether a state is what the state of the second file is with the first file before it. What the
first file leaves as a draft may be one until the second file has an outer line. -/
def Follows (a : Progress) (n : Nat) (b c : Progress) : Prop :=
  c = a.join n b ∨ b.draft = none ∧ c.finish = .ok (a.join n b)

theorem Follows.finish (hc : Follows a n b c) (h : b.finish = .ok b') :
    c.finish = .ok (a.join n b') := by
  rcases hc with rfl | ⟨hd, hc⟩
  · exact finish_join a n h
  · rw [finish_of_draft_none hd] at h
    cases h
    exact hc

/-- A recipe of the second file is read only where both states have it. -/
theorem Follows.eq_of_draft (hc : Follows a n b c) {d : Draft} (hd : b.draft = some d) :
    c = a.join n b := by
  rcases hc with rfl | ⟨hnone, _⟩
  · rfl
  · rw [hd] at hnone
    cases hnone

/-! ## A line of the second file -/

/-- Whether a line gives no setting and heads no recipe that the state has. -/
structure Allows (a : Progress) (form : LineForm) : Prop where
  setting : ∀ key value, form = .setting key value → key ∉ a.given
  header : ∀ text name parameters, form = .header text →
    declaration text = .ok (name, parameters) → ∀ r ∈ a.recipes, r.name ≠ name

/-- Nothing of the first file is met at a line that repeats nothing of it. -/
theorem Follows.accept (hunset : ∀ key, key ∉ a.given → a.settings.IsUnset key)
    (hc : Follows a n b c) (hallows : a.Allows form) (h : b.accept k form = .ok b') :
    ∃ c', c.accept (k + n) form = .ok c' ∧ Follows a n b' c' := by
  cases form with
  | blank =>
      cases h
      -- A blank line completes nothing, so that the draft of the first file may outlast it.
      refine ⟨{ c with doc := none }, rfl, ?_⟩
      rcases hc with rfl | ⟨hd, hc⟩
      · exact Or.inl rfl
      · refine Or.inr ⟨hd, ?_⟩
        rw [finish_with_doc, hc]
        rfl
  | remark =>
      -- Read by itself, the second file has an indented line only behind a header of its own.
      obtain ⟨⟨d, hd⟩, rfl⟩ := accept_remark_eq_ok_iff.mp h
      obtain rfl := hc.eq_of_draft hd
      exact ⟨_, accept_remark_eq_ok_iff.mpr ⟨⟨_, by rw [join, hd]; rfl⟩, rfl⟩, Or.inl rfl⟩
  | entry template =>
      obtain ⟨d, hd, rfl⟩ := accept_entry_eq_ok_iff.mp h
      obtain rfl := hc.eq_of_draft hd
      refine ⟨_, accept_entry_eq_ok_iff.mpr ⟨_, by rw [join, hd]; rfl, rfl⟩, Or.inl ?_⟩
      simp [join, Recipe.moved]
  | comment doc =>
      obtain ⟨b₀, h₀, rfl⟩ := accept_comment_eq_ok_iff.mp h
      exact ⟨_, accept_comment_eq_ok_iff.mpr ⟨_, hc.finish h₀, rfl⟩, Or.inl rfl⟩
  | setting key value =>
      obtain ⟨b₀, settings, h₀, hnew, hgive, rfl⟩ := accept_setting_eq_ok_iff.mp h
      have hfresh := hallows.setting key value rfl
      have hboth : key ∉ (a.join n b₀).given := by simp [join, hnew, hfresh]
      have hmerge := FileSettings.give_merge (hunset key hfresh) hgive
      exact ⟨_, accept_setting_eq_ok_iff.mpr ⟨_, _, hc.finish h₀, hboth, hmerge, rfl⟩, Or.inl rfl⟩
  | header text =>
      obtain ⟨b₀, name, parameters, h₀, hdecl, hnew, rfl⟩ := accept_header_eq_ok_iff.mp h
      have hboth : ∀ r ∈ (a.join n b₀).recipes, r.name ≠ name := by
        intro r hr
        rcases List.mem_append.mp hr with hr | hr
        · exact hallows.header text name parameters rfl hdecl r hr
        · obtain ⟨r₀, hr₀, rfl⟩ := List.mem_map.mp hr
          exact hnew r₀ hr₀
      refine ⟨_, accept_header_eq_ok_iff.mpr
        ⟨_, name, parameters, hc.finish h₀, hdecl, hboth, rfl⟩, Or.inl ?_⟩
      simp [join, Recipe.moved]

/-- A setting of the first file cannot be given again. -/
theorem Follows.accept_repeated_setting (hc : Follows a n b c) {key : Text} {value : Option Text}
    (hkey : key ∈ a.given) (h : b.accept k (.setting key value) = .ok b') :
    c.accept (k + n) (.setting key value) = .error (.atLine (k + n) (.repeatedSetting key)) := by
  obtain ⟨b₀, _, h₀, _⟩ := accept_setting_eq_ok_iff.mp h
  show (c.finish >>= readSet (k + n) key value) = _
  rw [hc.finish h₀, ok_bind, readSet, if_pos (by simp [join, hkey])]

/-- A recipe of the first file cannot be defined again. -/
theorem Follows.accept_repeated_header (hc : Follows a n b c) {text name : Text}
    {parameters : List Parameter} {r : Recipe} (hdecl : declaration text = .ok (name, parameters))
    (hr : a.recipes.find? (·.name == name) = some r) (h : b.accept k (.header text) = .ok b') :
    c.accept (k + n) (.header text) = .error (.repeatedRecipe name r.line (k + n)) := by
  obtain ⟨b₀, _, _, h₀, _⟩ := accept_header_eq_ok_iff.mp h
  have hfind : (a.join n b₀).recipes.find? (·.name == name) = some r := by
    rw [join, List.find?_append, hr, Option.some_or]
  show (c.finish >>= readRecipe (k + n) text) = _
  rw [hc.finish h₀, ok_bind, readRecipe, hdecl]
  dsimp only
  rw [hfind]

/-! ## The lines of the second file -/

theorem allows_of_not_repeats {keys : List Text} (hkeys : ∀ key, key ∈ a.given ↔ key ∈ keys)
    (h : Line.repeats (a.recipes.map (·.name)) keys line = false) :
    a.Allows (LineForm.of line) := by
  simp only [Line.repeats, Bool.or_eq_false_iff] at h
  obtain ⟨hname, hkey⟩ := h
  constructor
  · intro key value hform hgiven
    rw [Line.key?, LineForm.of_eq_setting_iff.mp hform] at hkey
    have hnew : key ∉ keys := by simpa using hkey
    exact hnew ((hkeys key).mp hgiven)
  · intro text name parameters hform hdecl r hr heq
    obtain ⟨hheading, rfl⟩ := LineForm.of_eq_header_iff.mp hform
    rw [headingName?_of_declaration hheading hdecl] at hname
    have hnew : name ∉ a.recipes.map (·.name) := by simpa using hname
    exact hnew (List.mem_map.mpr ⟨r, hr, heq⟩)

/-- A line that repeats something of the first file is where reading both ends. -/
theorem Follows.readLine_repeats {keys : List Text} (hkeys : ∀ key, key ∈ a.given ↔ key ∈ keys)
    (hc : Follows a n b c) (hline : Line.repeats (a.recipes.map (·.name)) keys line = true)
    (h : b.readLine k line = .ok b') :
    ∃ fault, Repetition a.recipes keys line (k + n) fault ∧
      c.readLine (k + n) line = .error fault := by
  simp only [Line.repeats, Bool.or_eq_true, Option.any_eq_true, List.contains_iff_mem] at hline
  rcases hline with ⟨name, hname, hmem⟩ | ⟨key, hkey, hmem⟩
  · have hheading : Line.isHeading line = true := by
      by_contra hno
      rw [Line.headingName?, if_neg hno] at hname
      cases hname
    have hform := LineForm.of_eq_header_iff.mpr ⟨hheading, rfl⟩
    rw [readLine, hform] at h
    -- The second file by itself declares the recipe, so that the header is sound but for its name.
    obtain ⟨_, name', parameters, _, hdecl, _⟩ := accept_header_eq_ok_iff.mp h
    obtain rfl : name' = name :=
      Option.some.inj ((headingName?_of_declaration hheading hdecl).symm.trans hname)
    obtain ⟨r, hr⟩ : ∃ r, a.recipes.find? (·.name == name') = some r := by
      obtain ⟨r, hr, heq⟩ := List.mem_map.mp hmem
      exact Option.isSome_iff_exists.mp (List.find?_isSome.mpr ⟨r, hr, by simpa using heq⟩)
    refine ⟨_, Repetition.recipe hname hr, ?_⟩
    rw [readLine, hform]
    exact hc.accept_repeated_header hdecl hr h
  · obtain ⟨⟨_, value⟩, hset, rfl⟩ := Option.map_eq_some_iff.mp hkey
    have hform := LineForm.of_eq_setting_iff.mpr hset
    rw [readLine, hform] at h
    refine ⟨_, Repetition.setting hkey hmem, ?_⟩
    rw [readLine, hform]
    exact hc.accept_repeated_setting ((hkeys _).mpr hmem) h

/-- Lines that repeat nothing of the first file are read as they are without it. -/
theorem Follows.readLines_of_allows (hunset : ∀ key, key ∉ a.given → a.settings.IsUnset key)
    (hc : Follows a n b c) (hallows : ∀ line ∈ ls, a.Allows (LineForm.of line))
    (h : b.readLines k ls = .ok b') :
    ∃ c', c.readLines (k + n) ls = .ok c' ∧ Follows a n b' c' := by
  induction ls generalizing b c k with
  | nil =>
      cases h
      exact ⟨c, rfl, hc⟩
  | cons line ls ih =>
      rw [readLines_cons, bind_eq_ok_iff] at h
      obtain ⟨b₁, h₁, h⟩ := h
      obtain ⟨c₁, hc₁, hfollows⟩ := hc.accept hunset (hallows line List.mem_cons_self) h₁
      obtain ⟨c', hc', hfollows'⟩ :=
        ih hfollows (fun l hl => hallows l (List.mem_cons_of_mem _ hl)) h
      refine ⟨c', ?_, hfollows'⟩
      rw [readLines_cons, readLine, hc₁, ok_bind, ← hc']
      congr 1
      omega

/-! ## The lines of both files -/

theorem join_empty (hd : a.draft = none) : a.join n {} = { a with doc := none } := by
  simp [join, FileSettings.merge_default, hd]

/-- Empty lines between the files keep the last comment of the first from the second. -/
theorem readLines_gap {gap : List Text} (hne : gap ≠ []) (hgap : ∀ line ∈ gap, line = []) :
    s.readLines n gap = .ok { s with doc := none } := by
  induction gap generalizing s n with
  | nil => exact absurd rfl hne
  | cons line gap ih =>
      obtain rfl := hgap line List.mem_cons_self
      rw [readLines_cons]
      show ({ s with doc := none } : Progress).readLines (n + 1) gap = _
      by_cases hlast : gap = []
      · rw [hlast]
        rfl
      · exact ih hlast fun l hl => hgap l (List.mem_cons_of_mem _ hl)

/-- Behind the first file and the empty lines the second begins. -/
theorem exists_follows {gap : List Text} (hne : gap ≠ []) (hgap : ∀ line ∈ gap, line = [])
    (ha : ofLines ls = .ok a) :
    ∃ c, readLines {} 1 (ls ++ gap) = .ok c ∧ Follows a (ls ++ gap).length {} c := by
  obtain ⟨s, hs, hfinish⟩ := bind_eq_ok_iff.mp ha
  refine ⟨{ s with doc := none }, ?_, Or.inr ⟨rfl, ?_⟩⟩
  · rw [readLines_append, hs, ok_bind, readLines_gap hne hgap]
  · rw [finish_with_doc, hfinish, join_empty (draft_of_finish hfinish)]
    rfl

/-- Files that repeat nothing of each other are read together. -/
theorem Follows.ofLines_eq_ok (hc : Follows a ls.length {} c) (hread : readLines {} 1 ls = .ok c)
    (hunset : ∀ key, key ∉ a.given → a.settings.IsUnset key) {more : List Text}
    (hallows : ∀ line ∈ more, a.Allows (LineForm.of line)) (hb : ofLines more = .ok b) :
    ofLines (ls ++ more) = .ok (a.join ls.length b) := by
  obtain ⟨b₁, hb₁, hfinish⟩ := bind_eq_ok_iff.mp hb
  obtain ⟨c₁, hc₁, hfollows⟩ := hc.readLines_of_allows hunset hallows hb₁
  rw [ofLines_append hread, hc₁, ok_bind, hfollows.finish hfinish]

/-- Files that repeat something are read up to the first line that does. -/
theorem Follows.ofLines_eq_error {keys : List Text}
    (hkeys : ∀ key, key ∈ a.given ↔ key ∈ keys) (hc : Follows a ls.length {} c)
    (hread : readLines {} 1 ls = .ok c)
    (hunset : ∀ key, key ∉ a.given → a.settings.IsUnset key) {before after : List Text}
    (hbefore : ∀ l ∈ before, Line.repeats (a.recipes.map (·.name)) keys l = false)
    (hline : Line.repeats (a.recipes.map (·.name)) keys line = true)
    (hb : ofLines (before ++ line :: after) = .ok b) :
    ∃ fault, Repetition a.recipes keys line (ls.length + before.length + 1) fault ∧
      ofLines (ls ++ (before ++ line :: after)) = .error fault := by
  obtain ⟨b₂, hb₂, _⟩ := bind_eq_ok_iff.mp hb
  rw [readLines_append, bind_eq_ok_iff] at hb₂
  obtain ⟨b₁, hb₁, hb₂⟩ := hb₂
  rw [readLines_cons, bind_eq_ok_iff] at hb₂
  obtain ⟨b', hb', _⟩ := hb₂
  obtain ⟨c₁, hc₁, hfollows⟩ :=
    hc.readLines_of_allows hunset (fun l hl => allows_of_not_repeats hkeys (hbefore l hl)) hb₁
  obtain ⟨fault, hfault, herror⟩ := hfollows.readLine_repeats hkeys hline hb'
  have hnumber : 1 + before.length + ls.length = ls.length + before.length + 1 := by omega
  have hplace : 1 + ls.length + before.length = 1 + before.length + ls.length := by omega
  rw [hnumber] at hfault
  refine ⟨fault, hfault, ?_⟩
  rw [ofLines_append hread, readLines_append, hc₁, ok_bind, readLines_cons, hplace, herror]
  rfl

end Progress

/-! ## Texts put together -/

namespace Registry

variable {A B : Text} {a b : Registry}

/-- Texts share nothing when no line of the second repeats anything of the first. -/
theorem disjoint_iff_forall_not_repeats {rs : List Recipe} {names keys ls : List Text}
    (hrs : List.Forall₂ Recipe.StandsAt rs (headings ls)) :
    names.Disjoint (rs.map (·.name)) ∧ keys.Disjoint (settingKeys ls) ↔
      ∀ line ∈ ls, Line.repeats names keys line = false := by
  rw [names_of_standsAt hrs]
  constructor
  · rintro ⟨hnames, hkeys⟩ line hline
    by_contra hrep
    simp only [Line.repeats, Bool.not_eq_false, Bool.or_eq_true, Option.any_eq_true,
      List.contains_iff_mem] at hrep
    rcases hrep with ⟨name, hname, hmem⟩ | ⟨key, hkey, hmem⟩
    · exact hnames hmem (List.mem_filterMap.mpr ⟨line, hline, hname⟩)
    · exact hkeys hmem (List.mem_filterMap.mpr ⟨line, hline, hkey⟩)
  · refine fun hnone => ⟨fun name hmem hname => ?_, fun key hmem hkey => ?_⟩
    · obtain ⟨line, hline, heq⟩ := List.mem_filterMap.mp hname
      have hrep : Line.repeats names keys line = true := by simp [Line.repeats, heq, hmem]
      rw [hnone line hline] at hrep
      cases hrep
    · obtain ⟨line, hline, heq⟩ := List.mem_filterMap.mp hkey
      have hrep : Line.repeats names keys line = true := by simp [Line.repeats, heq, hmem]
      rw [hnone line hline] at hrep
      cases hrep

/-- Of the lines that repeat something one is the first. -/
theorem exists_first_repeat {names keys ls : List Text}
    (h : ¬ ∀ line ∈ ls, Line.repeats names keys line = false) :
    ∃ before line after, ls = before ++ line :: after ∧
      (∀ l ∈ before, Line.repeats names keys l = false) ∧
      Line.repeats names keys line = true := by
  have hsome : ∃ line ∈ ls, Line.repeats names keys line = true := by simpa using h
  obtain ⟨line, hfind⟩ := Option.isSome_iff_exists.mp (List.find?_isSome.mpr hsome)
  obtain ⟨hline, before, after, heq, hbefore⟩ := List.find?_eq_some_iff_append.mp hfind
  exact ⟨before, line, after, heq, fun l hl => by simpa using hbefore l hl, hline⟩

/-- **Recipe files with an empty line between them are loaded together** if they share neither the
name of a recipe nor a setting; the lines of the second are counted from the end of the empty line.
If they share one, the two are rejected at the first line of the second that repeats something. -/
theorem load_append_blank (hA : load A = .ok a) (hB : load B = .ok b) :
    let keys := settingKeys (lines A)
    let n := (lines (A ++ ['\n', '\n'])).length
    let apart := a.names.Disjoint b.names ∧ keys.Disjoint (settingKeys (lines B))
    (apart → load (A ++ ['\n', '\n'] ++ B) = .ok (a.followedBy n b)) ∧
    (¬ apart → ∃ before line after fault, lines B = before ++ line :: after ∧
      (∀ l ∈ before, Line.repeats a.names keys l = false) ∧
      Repetition a.recipes keys line (n + before.length + 1) fault ∧
      load (A ++ ['\n', '\n'] ++ B) = .error (.malformed none fault)) := by
  intro keys n apart
  obtain ⟨sa, hsa, rfl⟩ := load_eq_ok_iff.mp hA
  obtain ⟨sb, hsb, rfl⟩ := load_eq_ok_iff.mp hB
  obtain ⟨gap, hne, hgap, hlines, happend⟩ := exists_lines_append_blank A
  obtain ⟨c, hread, hfollows⟩ := Progress.exists_follows hne hgap hsa
  have hgives := Progress.gives_of_ofLines hsa
  have hkeys : ∀ key, key ∈ sa.given ↔ key ∈ keys := fun key => by simp [keys, hgives.given]
  have hapart : apart ↔ ∀ line ∈ lines B, Line.repeats _ keys line = false :=
    disjoint_iff_forall_not_repeats (Progress.standsAt_of_ofLines hsb)
  have hn : n = (lines A ++ gap).length := congrArg List.length hlines
  have hboth : lines (A ++ ['\n', '\n'] ++ B) = lines A ++ gap ++ lines B := by
    rw [← happend B, List.append_assoc]
    rfl
  rw [hapart]
  constructor
  · intro hnone
    have hallows : ∀ line ∈ lines B, sa.Allows (LineForm.of line) := fun line hline =>
      Progress.allows_of_not_repeats hkeys (hnone line hline)
    have hok := hfollows.ofLines_eq_ok hread hgives.unset hallows hsb
    rw [← hboth, ← hn] at hok
    exact load_eq_ok_iff.mpr ⟨_, hok, rfl⟩
  · intro hsome
    obtain ⟨before, line, after, hsplit, hbefore, hline⟩ := exists_first_repeat hsome
    rw [hsplit] at hsb
    obtain ⟨fault, hfault, herror⟩ :=
      hfollows.ofLines_eq_error hkeys hread hgives.unset hbefore hline hsb
    rw [← hn] at hfault
    rw [← hsplit, ← hboth] at herror
    exact ⟨before, line, after, fault, hsplit, hbefore, hfault,
      load_eq_error_iff.mpr ⟨fault, herror, rfl⟩⟩

/-- A text that ends in a return and a comment, before one that begins with a setting and before one
that has a recipe of its name. -/
theorem load_append_blank_return :
    let A := "set shell := ['sh']\na x:\n  one {{x}}\n# end\r".toList
    let B := "set positional-arguments\nb:\n\n  two".toList
    let C := "c:\n  three\n# again\na:\n".toList
    let a : Registry := {
      recipes := [
        { name := ['a']
          parameters := [⟨['x'], none, false⟩]
          body := ["one {{x}}".toList]
          line := 2 }]
      settings := { shell := some ["sh".toList] } }
    let b : Registry := {
      recipes := [{ name := ['b'], body := ["two".toList], line := 2 }]
      settings := { positionalArguments := true } }
    let c : Registry := {
      recipes := [
        { name := ['c'], body := ["three".toList], line := 1 },
        { name := ['a'], doc := some "again".toList, line := 4 }] }
    load A = .ok a ∧ load B = .ok b ∧ load C = .ok c ∧
    load (A ++ ['\n', '\n'] ++ B) = .ok {
      recipes := a.recipes ++ [{ name := ['b'], body := ["two".toList], line := 7 }]
      settings := { positionalArguments := true, shell := some ["sh".toList] } } ∧
    ∃ before line after, lines C = before ++ line :: after ∧
      Repetition a.recipes (settingKeys (lines A)) line
        ((lines (A ++ ['\n', '\n'])).length + before.length + 1) (.repeatedRecipe ['a'] 2 9) ∧
      load (A ++ ['\n', '\n'] ++ C) = .error (.malformed none (.repeatedRecipe ['a'] 2 9)) := by
  intro A B C a b c
  have hA : load A = .ok a := by decide +kernel
  have hB : load B = .ok b := by decide +kernel
  have hC : load C = .ok c := by decide +kernel
  refine ⟨hA, hB, hC, ?_, ?_⟩
  · have hnames : a.names.Disjoint b.names := List.disjoint_left.mpr (by decide)
    have hkeys : (settingKeys (lines A)).Disjoint (settingKeys (lines B)) :=
      List.disjoint_left.mpr (by decide +kernel)
    rw [(load_append_blank hA hB).1 ⟨hnames, hkeys⟩]
    decide +kernel
  · have hshared : ¬ a.names.Disjoint c.names := fun h =>
      h (show ['a'] ∈ a.names by decide) (by decide)
    obtain ⟨before, line, after, fault, hsplit, _, hfault, hload⟩ :=
      (load_append_blank hA hC).2 fun hapart => hshared hapart.1
    have herror : load (A ++ ['\n', '\n'] ++ C) =
        .error (.malformed none (.repeatedRecipe ['a'] 2 9)) := by decide +kernel
    cases hload.symm.trans herror
    exact ⟨before, line, after, hsplit, hfault, herror⟩

end Registry

end Runbook
