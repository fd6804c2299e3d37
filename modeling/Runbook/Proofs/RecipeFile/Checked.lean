import Runbook.Proofs.RecipeFile.Steps

set_option autoImplicit false

/-! # Recipes that the reader has checked

The reader refuses a header whose parameters are out of order, and completes a recipe only when
all placeholders of its body name parameters. Every recipe of a registry is *checked* in this
sense: the property of the finished recipes, together with the order of the current recipe's
parameters, is kept by every line.
-/

namespace Runbook

/-! ## The order of parameters -/

/-- The order that the parameters of a recipe have to have. -/
structure OrderedParameters (ps : List Parameter) : Prop where
  distinct : (ps.map (·.name)).Nodup
  variadic_last : ∀ p ∈ ps.dropLast, p.variadic = false
  /-- Behind a parameter that is not required, none is. -/
  required_first : ps.Pairwise fun p q => q.isRequired = true → p.isRequired = true

/-- Parameters in order, one by one. -/
theorem orderedParameters_cons_iff {p : Parameter} {ps : List Parameter} :
    OrderedParameters (p :: ps) ↔
      p.name ∉ ps.map (·.name) ∧ (p.variadic = true → ps = []) ∧
      (∀ q ∈ ps, q.isRequired = true → p.isRequired = true) ∧ OrderedParameters ps := by
  constructor
  · intro h
    have hdistinct := List.nodup_cons.mp h.distinct
    have hrequired := List.pairwise_cons.mp h.required_first
    refine ⟨hdistinct.1, ?_, hrequired.1, ⟨hdistinct.2, ?_, hrequired.2⟩⟩
    · intro hv
      cases ps with
      | nil => rfl
      | cons r rs =>
          rw [h.variadic_last p (by simp)] at hv
          cases hv
    · intro q hq
      cases ps with
      | nil => cases hq
      | cons r rs => exact h.variadic_last q (by simp [hq])
  · rintro ⟨hname, hlast, hreq, hps⟩
    refine ⟨List.nodup_cons.mpr ⟨hname, hps.distinct⟩, ?_,
      List.pairwise_cons.mpr ⟨hreq, hps.required_first⟩⟩
    intro q hq
    cases ps with
    | nil => cases hq
    | cons r rs =>
        rcases List.mem_cons.mp hq with rfl | hq
        · by_contra hv
          exact absurd (hlast (by simpa using hv)) (by simp)
        · exact hps.variadic_last q hq

theorem parameterFault?_cons_eq_none_iff {recipe : Text} {seen : List Text} {optional : Bool}
    {p : Parameter} {ps : List Parameter} :
    parameterFault? recipe seen optional (p :: ps) = none ↔
      p.name ∉ seen ∧ (p.variadic = true → ps = []) ∧
      (p.isRequired = true → optional = false) ∧
      parameterFault? recipe (p.name :: seen) (optional || !p.isRequired) ps = none := by
  rw [parameterFault?]
  by_cases hseen : p.name ∈ seen
  · simp [hseen]
  by_cases hlast : p.variadic = true ∧ ps ≠ []
  · simp [hseen, hlast]
  have hlast' : p.variadic = true → ps = [] := by
    intro hv
    by_contra hne
    exact hlast ⟨hv, hne⟩
  have hpass : (p.variadic && !ps.isEmpty) = false := by
    cases hv : p.variadic with
    | false => rfl
    | true => simp [hlast' hv]
  by_cases hreq : p.isRequired = true ∧ optional = true
  · simp [hseen, hpass, hreq]
  · have hreq' : p.isRequired = true → optional = false := by
      intro hr
      simpa [hr] using hreq
    rw [if_neg (by simpa using hseen), if_neg (by simp [hpass]), if_neg (by simpa using hreq)]
    exact ⟨fun h => ⟨hseen, hlast', hreq', h⟩, fun h => h.2.2.2⟩

/-- The check of the parameters, at any place of the list: `seen` are the names before it, and
`optional` says that one of the parameters before it is not required. -/
theorem parameterFault?_eq_none_iff_of_seen {recipe : Text} {seen : List Text} {optional : Bool}
    {ps : List Parameter} :
    parameterFault? recipe seen optional ps = none ↔
      OrderedParameters ps ∧ (∀ p ∈ ps, p.name ∉ seen) ∧
      (optional = true → ∀ p ∈ ps, p.isRequired = false) := by
  induction ps generalizing seen optional with
  | nil =>
      simp only [parameterFault?, true_iff]
      exact ⟨⟨by simp, by simp, by simp⟩, by simp, by simp⟩
  | cons p ps ih =>
      rw [parameterFault?_cons_eq_none_iff, ih, orderedParameters_cons_iff]
      constructor
      · rintro ⟨hseen, hlast, hreq, hps, hnew, hopt⟩
        refine ⟨⟨?_, hlast, ?_, hps⟩, ?_, ?_⟩
        · intro hmem
          obtain ⟨q, hq, hname⟩ := List.mem_map.mp hmem
          exact hnew q hq (by simp [hname])
        · intro q hq hqr
          by_contra hpr
          have hqr' := hopt (by simp [hpr]) q hq
          rw [hqr] at hqr'
          cases hqr'
        · intro q hq
          rcases List.mem_cons.mp hq with rfl | hq
          · exact hseen
          · exact fun hmem => hnew q hq (by simp [hmem])
        · intro ho q hq
          rcases List.mem_cons.mp hq with rfl | hq
          · by_contra hr
            rw [hreq (by simpa using hr)] at ho
            cases ho
          · exact hopt (by simp [ho]) q hq
      · rintro ⟨⟨hname, hlast, hreq, hps⟩, hseen, hopt⟩
        refine ⟨hseen p (by simp), hlast, ?_, hps, ?_, ?_⟩
        · intro hr
          by_contra ho
          rw [hopt (by simpa using ho) p (by simp)] at hr
          cases hr
        · intro q hq hmem
          rcases List.mem_cons.mp hmem with hqp | hmem
          · exact hname (hqp ▸ List.mem_map_of_mem hq)
          · exact hseen q (by simp [hq]) hmem
        · intro ho q hq
          rw [Bool.or_eq_true] at ho
          rcases ho with ho | hp
          · exact hopt ho q (by simp [hq])
          · by_contra hr
            rw [hreq q hq (by simpa using hr)] at hp
            cases hp

/-- **A header's parameters pass their check exactly when they are in order.** -/
theorem parameterFault?_eq_none_iff {recipe : Text} {ps : List Parameter} :
    parameterFault? recipe [] false ps = none ↔ OrderedParameters ps := by
  rw [parameterFault?_eq_none_iff_of_seen]
  simp

instance (ps : List Parameter) : Decidable (OrderedParameters ps) :=
  decidable_of_iff (parameterFault? [] [] false ps = none) parameterFault?_eq_none_iff

/-- What a header declares: its name and parameters stand before a colon, and the parameters are
in order. -/
theorem declaration_eq_ok_iff {line name : Text} {ps : List Parameter} :
    declaration line = .ok (name, ps) ↔ ∃ tail, readHeader line = some (name, ps, tail) ∧
      tailFault? name tail = none ∧ OrderedParameters ps := by
  unfold declaration
  split
  · next h => simp [h]
  · next name' ps' tail h =>
      simp only [h, Option.some.injEq, Prod.mk.injEq]
      split
      · next fault hf =>
          simp only [reduceCtorEq, false_iff]
          rintro ⟨_, ⟨rfl, rfl, rfl⟩, ht, _⟩
          rw [hf] at ht
          cases ht
      · next ht =>
          split
          · next fault hf =>
              simp only [reduceCtorEq, false_iff]
              rintro ⟨_, ⟨rfl, rfl, rfl⟩, _, hord⟩
              rw [parameterFault?_eq_none_iff.mpr hord] at hf
              cases hf
          · next hf =>
              simp only [Except.ok.injEq, Prod.mk.injEq]
              constructor
              · rintro ⟨rfl, rfl⟩
                exact ⟨tail, ⟨rfl, rfl, rfl⟩, ht, parameterFault?_eq_none_iff.mp hf⟩
              · rintro ⟨_, ⟨rfl, rfl, rfl⟩, _, _⟩
                exact ⟨rfl, rfl⟩

/-! ## The placeholders of a body -/

/-- Whether the placeholders of a template name parameters. -/
def IsDeclaredIn (ps : List Parameter) (template : Text) : Prop :=
  ∀ name ∈ placeholderNames template, name ∈ ps.map (·.name)

instance (ps : List Parameter) (template : Text) : Decidable (IsDeclaredIn ps template) :=
  inferInstanceAs (Decidable (∀ name ∈ placeholderNames template, name ∈ ps.map (·.name)))

theorem mem_placeholders_iff {r : Recipe} {place : Nat} {name : Text} :
    (place, name) ∈ r.placeholders ↔
      ∃ template, r.body[place]? = some template ∧ name ∈ placeholderNames template := by
  unfold Recipe.placeholders
  simp only [List.mem_flatMap, List.mem_map, Prod.mk.injEq, Prod.exists]
  constructor
  · rintro ⟨template, i, hmem, _, hname, rfl, rfl⟩
    exact ⟨template, (List.mem_zipIdx_iff_getElem?.mp hmem), hname⟩
  · rintro ⟨template, hmem, hname⟩
    exact ⟨template, place, List.mem_zipIdx_iff_getElem?.mpr hmem, name, hname, rfl, rfl⟩

/-- **A recipe passes its check exactly when all its placeholders are declared.** -/
theorem undeclared?_eq_none_iff {r : Recipe} :
    undeclared? r = none ↔ ∀ template ∈ r.body, IsDeclaredIn r.parameters template := by
  unfold undeclared?
  rw [List.find?_eq_none]
  constructor
  · intro h template hmem name hname
    obtain ⟨place, hplace⟩ := List.mem_iff_getElem?.mp hmem
    have := h (place, name) (mem_placeholders_iff.mpr ⟨template, hplace, hname⟩)
    simpa using this
  · rintro h ⟨place, name⟩ hmem
    obtain ⟨template, hplace, hname⟩ := mem_placeholders_iff.mp hmem
    have := h template (List.mem_of_getElem? hplace) name hname
    simpa using this

/-! ## Checked recipes -/

/-- What the reader makes sure of in every recipe. -/
structure Recipe.Checked (r : Recipe) : Prop where
  ordered : OrderedParameters r.parameters
  declared : ∀ template ∈ r.body, IsDeclaredIn r.parameters template

namespace Progress

/-- What holds between two lines: the finished recipes are checked, and the parameters of the
current recipe are in order. -/
structure Checked (s : Progress) : Prop where
  recipes : ∀ r ∈ s.recipes, r.Checked
  draft : ∀ d, s.draft = some d → OrderedParameters d.recipe.parameters

theorem checked_empty : Checked {} := by
  constructor
  · intro r hr
    cases hr
  · intro d hd
    cases hd

theorem Checked.finish {s s' : Progress} (hs : s.Checked) (h : s.finish = .ok s') :
    s'.Checked := by
  rcases finish_eq_ok_iff.mp h with ⟨_, rfl⟩ | ⟨d, hd, hu, rfl⟩
  · exact hs
  · constructor
    · intro r hr
      rcases List.mem_append.mp hr with hr | hr
      · exact hs.recipes r hr
      · rw [List.mem_singleton] at hr
        rw [hr]
        exact ⟨hs.draft d hd, undeclared?_eq_none_iff.mp hu⟩
    · intro d' hd'
      cases hd'

theorem Checked.accept {s s' : Progress} (hs : s.Checked) {n : Nat} {form : LineForm}
    (h : s.accept n form = .ok s') : s'.Checked := by
  cases form with
  | blank =>
      cases h
      exact ⟨hs.recipes, hs.draft⟩
  | remark =>
      obtain ⟨_, rfl⟩ := accept_remark_eq_ok_iff.mp h
      exact hs
  | entry template =>
      obtain ⟨d, hd, rfl⟩ := accept_entry_eq_ok_iff.mp h
      refine ⟨hs.recipes, fun d' hd' => ?_⟩
      cases hd'
      exact hs.draft d hd
  | comment doc =>
      obtain ⟨s₀, h₀, rfl⟩ := accept_comment_eq_ok_iff.mp h
      have hs₀ := hs.finish h₀
      exact ⟨hs₀.recipes, hs₀.draft⟩
  | setting key value =>
      obtain ⟨s₀, settings, h₀, _, _, rfl⟩ := accept_setting_eq_ok_iff.mp h
      have hs₀ := hs.finish h₀
      exact ⟨hs₀.recipes, hs₀.draft⟩
  | header line =>
      obtain ⟨s₀, name, parameters, h₀, hdecl, _, rfl⟩ := accept_header_eq_ok_iff.mp h
      obtain ⟨_, _, _, hord⟩ := declaration_eq_ok_iff.mp hdecl
      refine ⟨(hs.finish h₀).recipes, fun d' hd' => ?_⟩
      cases hd'
      exact hord

/-- **Every recipe that is read is checked.** -/
theorem checked_of_ofLines {ls : List Text} {s : Progress} (h : ofLines ls = .ok s) :
    s.Checked := by
  obtain ⟨s₁, h₁, h⟩ := bind_eq_ok_iff.mp h
  have hs₁ : s₁.Checked := readLines_induction (P := fun _ s => s.Checked)
    (fun n s s' line _ hs hl => hs.accept hl) h₁ checked_empty
  exact hs₁.finish h

end Progress

/-- Every recipe of a registry is checked, whether or not its text comes from a file. -/
theorem Registry.checked_of_ofText {source : Option Path} {t : Text} {reg : Registry}
    (h : Registry.ofText source t = .ok reg) {r : Recipe} (hr : r ∈ reg.recipes) : r.Checked := by
  obtain ⟨s, hs, rfl⟩ := Registry.ofText_eq_ok_iff.mp h
  exact (Progress.checked_of_ofLines hs).recipes r hr

/-- Every recipe of a registry that was loaded is checked. -/
theorem Registry.checked_of_load {t : Text} {reg : Registry} (h : Registry.load t = .ok reg)
    {r : Recipe} (hr : r ∈ reg.recipes) : r.Checked :=
  Registry.checked_of_ofText h hr

end Runbook
