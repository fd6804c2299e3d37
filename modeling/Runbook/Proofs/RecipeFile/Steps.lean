import Runbook.Proofs.Chain
import Runbook.Registry

set_option autoImplicit false

/-! # What a line does to the state of the reader

The steps of the reader, one lemma for each way in which a step can succeed. All that is proved
about the reader's runs goes through these lemmas and through `readLines_append`.
-/

namespace Runbook

/-! ## Giving a setting -/

/-- A value that may be given is given in the same way whatever the settings were: it is a truth, or
a list that begins with a command. -/
theorem FileSettings.give_cases {s s' : FileSettings} {key : Text} {value : Option Text}
    (h : s.give key value = .ok s') :
    (key = "positional-arguments".toList ∧ ∃ truth, ∀ t : FileSettings,
      t.give key value = .ok { t with positionalArguments := truth }) ∨
    (key = "shell".toList ∧ ∃ items, value.bind readList = some items ∧
      items.head?.all (·.isEmpty) = false ∧
      ∀ t : FileSettings, t.give key value = .ok { t with shell := some items }) := by
  unfold FileSettings.give at h ⊢
  split at h
  · next hkey =>
      left
      refine ⟨by simpa using hkey, ?_⟩
      split at h
      · exact ⟨true, fun t => by rw [if_pos hkey]⟩
      · next v =>
          split at h
          · next hv => exact ⟨true, fun t => by rw [if_pos hkey, if_pos hv]⟩
          · next hv =>
              split at h
              · next hf =>
                  exact ⟨false, fun t => by rw [if_pos hkey, if_neg hv, if_pos hf]⟩
              · cases h
  · next hkey =>
      split at h
      · next hshell =>
          right
          split at h
          · cases h
          · next items hitems =>
              split at h
              · cases h
              · next hcommand =>
                  refine ⟨by simpa using hshell, items, hitems, by simpa using hcommand, ?_⟩
                  intro t
                  rw [if_neg hkey, if_pos hshell, if_neg hcommand]
      · cases h

namespace Progress

variable {s s' : Progress} {n : Nat} {fault : LoadFault}

/-! ## Completing a recipe -/

theorem finish_of_draft_none (h : s.draft = none) : s.finish = .ok s := by
  unfold finish
  rw [h]

/-- A recipe is completed when all its placeholders name parameters. -/
theorem finish_eq_ok_iff : s.finish = .ok s' ↔
    (s.draft = none ∧ s' = s) ∨
    ∃ d, s.draft = some d ∧ undeclared? d.recipe = none ∧
      s' = { s with recipes := s.recipes ++ [d.recipe], draft := none } := by
  unfold finish
  split
  · next hd => simp [hd, eq_comm]
  · next d hd =>
      split
      · next hu => simp [hd, hu]
      · next hu => simp [hd, hu, eq_comm]

/-- A recipe that is not completed has a placeholder that names no parameter. -/
theorem finish_eq_error_iff : s.finish = .error fault ↔
    ∃ d place name, s.draft = some d ∧ undeclared? d.recipe = some (place, name) ∧
      fault = .atLine (d.numbers.getD place 0) (.undeclared d.recipe.name name) := by
  unfold finish
  split
  · next hd => simp [hd]
  · next d hd =>
      split
      · next place name hu =>
          simp only [Except.error.injEq, hd, Option.some.injEq]
          constructor
          · rintro rfl
            exact ⟨d, place, name, rfl, hu, rfl⟩
          · rintro ⟨d', place', name', rfl, hu', rfl⟩
            rw [hu] at hu'
            cases hu'
            rfl
      · next hu => simp [hd, hu]

/-- Completing a recipe changes nothing but the recipes and the draft. -/
theorem eq_of_finish (h : s.finish = .ok s') :
    s' = { s with recipes := s'.recipes, draft := none } := by
  rcases finish_eq_ok_iff.mp h with ⟨hd, rfl⟩ | ⟨d, _, _, rfl⟩
  · rw [← hd]
  · rfl

theorem draft_of_finish (h : s.finish = .ok s') : s'.draft = none := by
  rw [eq_of_finish h]

theorem doc_of_finish (h : s.finish = .ok s') : s'.doc = s.doc := by
  rw [eq_of_finish h]

theorem settings_of_finish (h : s.finish = .ok s') : s'.settings = s.settings := by
  rw [eq_of_finish h]

theorem given_of_finish (h : s.finish = .ok s') : s'.given = s.given := by
  rw [eq_of_finish h]

/-- The comment that waits for a header has no part in completing a recipe. -/
theorem finish_with_doc (s : Progress) (doc : Option Text) :
    ({ s with doc } : Progress).finish = s.finish.map fun s' => { s' with doc } := by
  unfold finish
  dsimp only
  split
  · rfl
  · split <;> rfl

/-! ## Accepting a line -/

/-- An indented comment leaves the state alone, and needs a recipe to stand in. -/
theorem accept_remark_eq_ok_iff :
    s.accept n .remark = .ok s' ↔ (∃ d, s.draft = some d) ∧ s' = s := by
  show s.readBody n none = .ok s' ↔ _
  unfold readBody
  cases hd : s.draft with
  | none => simp
  | some d => simp [eq_comm]

/-- An entry is added to the recipe that is being read. -/
theorem accept_entry_eq_ok_iff {template : Text} :
    s.accept n (.entry template) = .ok s' ↔ ∃ d, s.draft = some d ∧
      s' = { s with
        draft := some ⟨{ d.recipe with body := d.recipe.body ++ [template] }, d.numbers ++ [n]⟩ } := by
  show s.readBody n (some template) = .ok s' ↔ _
  unfold readBody
  cases hd : s.draft with
  | none => simp
  | some d => simp [eq_comm]

theorem accept_comment_eq_ok_iff {doc : Option Text} :
    s.accept n (.comment doc) = .ok s' ↔ ∃ s₀, s.finish = .ok s₀ ∧ s' = { s₀ with doc } := by
  show (s.finish >>= fun s₀ => Except.ok { s₀ with doc }) = .ok s' ↔ _
  rw [bind_eq_ok_iff]
  simp [eq_comm]

/-- A setting is taken once, with a value that it may have. -/
theorem accept_setting_eq_ok_iff {key : Text} {value : Option Text} :
    s.accept n (.setting key value) = .ok s' ↔ ∃ s₀ settings, s.finish = .ok s₀ ∧
      key ∉ s₀.given ∧ s₀.settings.give key value = .ok settings ∧
      s' = { s₀ with settings, given := key :: s₀.given, doc := none } := by
  show (s.finish >>= readSet n key value) = .ok s' ↔ _
  rw [bind_eq_ok_iff]
  apply exists_congr
  intro s₀
  unfold readSet
  by_cases hk : key ∈ s₀.given
  · simp [hk]
  · cases hv : s₀.settings.give key value with
    | error fault => simp [hk]
    | ok settings => simp [hk, eq_comm]

/-- A header begins a recipe, if it declares one and no recipe has its name. -/
theorem accept_header_eq_ok_iff {line : Text} :
    s.accept n (.header line) = .ok s' ↔ ∃ s₀ name parameters, s.finish = .ok s₀ ∧
      declaration line = .ok (name, parameters) ∧ (∀ r ∈ s₀.recipes, r.name ≠ name) ∧
      s' = { s₀ with
        draft := some ⟨{ name, parameters, doc := s₀.doc, line := n }, []⟩, doc := none } := by
  show (s.finish >>= readRecipe n line) = .ok s' ↔ _
  rw [bind_eq_ok_iff]
  apply exists_congr
  intro s₀
  unfold readRecipe
  cases hl : declaration line with
  | error fault => simp
  | ok declared =>
      obtain ⟨name, parameters⟩ := declared
      dsimp only
      cases hf : s₀.recipes.find? (·.name == name) with
      | none =>
          have hnew : ∀ r ∈ s₀.recipes, r.name ≠ name := by
            simpa using List.find?_eq_none.mp hf
          simp only [Except.ok.injEq, Prod.mk.injEq]
          constructor
          · rintro ⟨hs, rfl⟩
            exact ⟨name, parameters, hs, ⟨rfl, rfl⟩, hnew, rfl⟩
          · rintro ⟨_, _, hs, ⟨rfl, rfl⟩, _, rfl⟩
            exact ⟨hs, rfl⟩
      | some r =>
          have hmem := List.mem_of_find?_eq_some hf
          have hname : r.name = name := by simpa using List.find?_some hf
          simp only [Except.ok.injEq, Prod.mk.injEq, reduceCtorEq, and_false, false_iff]
          rintro ⟨_, _, _, ⟨rfl, rfl⟩, hnew, _⟩
          exact hnew r hmem hname

/-! ## Reading lines -/

theorem readLines_cons (s : Progress) (n : Nat) (line : Text) (more : List Text) :
    s.readLines n (line :: more) = (s.readLine n line >>= fun s₁ => s₁.readLines (n + 1) more) :=
  rfl

/-- Lines are read one part after the other. -/
theorem readLines_append (s : Progress) (n : Nat) (ls more : List Text) :
    s.readLines n (ls ++ more) =
      (s.readLines n ls >>= fun s₁ => s₁.readLines (n + ls.length) more) := by
  induction ls generalizing s n with
  | nil => rfl
  | cons line ls ih =>
      rw [List.cons_append, readLines_cons, readLines_cons]
      cases hl : s.readLine n line with
      | error fault => rfl
      | ok s₁ =>
          rw [ok_bind, ok_bind, ih, List.length_cons]
          congr 2
          funext s₂
          congr 1
          omega

theorem readLines_concat (s : Progress) (n : Nat) (ls : List Text) (line : Text) :
    s.readLines n (ls ++ [line]) =
      (s.readLines n ls >>= fun s₁ => s₁.readLine (n + ls.length) line) := by
  rw [readLines_append]
  congr 1
  funext s₁
  rw [readLines_cons]
  cases s₁.readLine (n + ls.length) line <;> rfl

/-- Of a line nothing counts but its form. -/
theorem readLines_congr {ls ls' : List Text} (h : ls.map LineForm.of = ls'.map LineForm.of)
    (s : Progress) (n : Nat) : s.readLines n ls = s.readLines n ls' := by
  induction ls generalizing ls' s n with
  | nil =>
      rw [List.map_nil, eq_comm, List.map_eq_nil_iff] at h
      rw [h]
  | cons line ls ih =>
      cases ls' with
      | nil => cases h
      | cons line' ls' =>
          rw [List.map_cons, List.map_cons, List.cons.injEq] at h
          have hline : s.readLine n line = s.readLine n line' := by
            unfold readLine
            rw [h.1]
          rw [readLines_cons, readLines_cons, hline]
          congr 1
          funext s₁
          exact ih h.2 s₁ (n + 1)

theorem ofLines_congr {ls ls' : List Text} (h : ls.map LineForm.of = ls'.map LineForm.of) :
    ofLines ls = ofLines ls' := by
  unfold ofLines
  rw [readLines_congr h]

/-- A file is read up to some place, and from there to the end. -/
theorem ofLines_append {ls : List Text} (h : readLines {} 1 ls = .ok s) (more : List Text) :
    ofLines (ls ++ more) = (s.readLines (1 + ls.length) more >>= finish) := by
  unfold ofLines
  rw [readLines_append, h, ok_bind]

/-- The beginning of a file that can be read is read to some state. -/
theorem exists_readLines_of_ofLines {ls more : List Text} (h : ofLines (ls ++ more) = .ok s') :
    ∃ s, readLines {} 1 ls = .ok s ∧
      (s.readLines (1 + ls.length) more >>= finish) = .ok s' := by
  have hread := h
  unfold ofLines at hread
  rw [readLines_append, bind_eq_ok_iff] at hread
  obtain ⟨_, hread, _⟩ := hread
  obtain ⟨s, hs, _⟩ := bind_eq_ok_iff.mp hread
  rw [ofLines_append hs] at h
  exact ⟨s, hs, h⟩

/-- Every line of a file that can be read is read in some state. -/
theorem exists_readLine_of_ofLines {above below : List Text} {line : Text}
    (h : ofLines (above ++ line :: below) = .ok s') :
    ∃ s s₁, readLines {} 1 above = .ok s ∧ s.readLine (1 + above.length) line = .ok s₁ ∧
      (s₁.readLines (1 + above.length + 1) below >>= finish) = .ok s' := by
  obtain ⟨s, hs, hrest⟩ := exists_readLines_of_ofLines h
  rw [readLines_cons, bind_eq_ok_iff] at hrest
  obtain ⟨s₂, hs₂, hfinish⟩ := hrest
  obtain ⟨s₁, h₁, h₂⟩ := bind_eq_ok_iff.mp hs₂
  refine ⟨s, s₁, hs, h₁, ?_⟩
  rw [h₂, ok_bind, hfinish]

/-- What every line keeps, all of them keep. -/
theorem readLines_induction {P : Nat → Progress → Prop} {ls : List Text}
    (hstep : ∀ n s s' line, line ∈ ls → P n s → s.readLine n line = .ok s' → P (n + 1) s')
    (h : s.readLines n ls = .ok s') (hs : P n s) : P (n + ls.length) s' := by
  induction ls generalizing s n with
  | nil =>
      cases h
      exact hs
  | cons line ls ih =>
      rw [readLines_cons, bind_eq_ok_iff] at h
      obtain ⟨s₁, h₁, h⟩ := h
      have hs₁ := hstep n s s₁ line (by simp) hs h₁
      have := ih (fun n s s' l hl => hstep n s s' l (by simp [hl])) h hs₁
      rw [List.length_cons]
      rwa [show n + (ls.length + 1) = n + 1 + ls.length by omega]

end Progress

/-! ## Loading a text -/

namespace Registry

variable {t : Text}

/-- The registry that a reader ends with. -/
def ofProgress : Except LoadFault Progress → Except RegistryFault Registry
  | .ok s => .ok { recipes := s.recipes, settings := s.settings }
  | .error fault => .error (.malformed none fault)

/-- A text is loaded by reading its lines. -/
theorem load_eq (t : Text) : load t = ofProgress (Progress.ofLines (Text.lines t)) := by
  unfold load ofText readRecipeFile
  cases Progress.ofLines (Text.lines t) <;> rfl

/-- A text is read in the same way whether or not it comes from a file. -/
theorem ofText_eq_ok_iff {source : Option Path} {reg : Registry} :
    ofText source t = .ok reg ↔ ∃ s, Progress.ofLines (Text.lines t) = .ok s ∧
      reg = { recipes := s.recipes, settings := s.settings, source } := by
  unfold ofText readRecipeFile
  cases Progress.ofLines (Text.lines t) with
  | error fault => simp [error_bind]
  | ok s => simp [ok_bind, eq_comm]

theorem load_eq_ok_iff {reg : Registry} :
    load t = .ok reg ↔ ∃ s, Progress.ofLines (Text.lines t) = .ok s ∧
      reg = { recipes := s.recipes, settings := s.settings } :=
  ofText_eq_ok_iff

theorem load_eq_error_iff {fault : RegistryFault} :
    load t = .error fault ↔ ∃ f, Progress.ofLines (Text.lines t) = .error f ∧
      fault = .malformed none f := by
  rw [load_eq]
  cases Progress.ofLines (Text.lines t) with
  | error f => simp [ofProgress, eq_comm]
  | ok s => simp [ofProgress]

end Registry

end Runbook
