import Runbook.Proofs.Invocation.Binding

set_option autoImplicit false

/-! # How many arguments a recipe takes

The least and the greatest number of arguments are counted over the parameters, and binding walks
along them without either. For parameters in order the two agree: the required ones are a beginning of
the list, so that the first parameter without an argument has no default exactly if the arguments are
fewer than the required parameters. Which argument or default a parameter is bound to is then a matter
of its place alone.
-/

namespace Runbook

/-! ## Required parameters come first -/

/-- Behind a parameter that is not required, none is counted. -/
theorem countP_isRequired_eq_zero {p : Parameter} {ps : List Parameter}
    (h : ∀ q ∈ ps, q.isRequired = true → p.isRequired = true) (hp : p.isRequired = false) :
    ps.countP (·.isRequired) = 0 := by
  rw [List.countP_eq_zero]
  intro q hq hrequired
  rw [h q hq hrequired] at hp
  cases hp

/-- A parameter is required exactly if its place is below the number of required parameters. -/
theorem isRequired_iff_lt {ps : List Parameter}
    (h : ps.Pairwise fun p q => q.isRequired = true → p.isRequired = true) {i : Nat} {p : Parameter}
    (hp : ps[i]? = some p) : p.isRequired = true ↔ i < ps.countP (·.isRequired) := by
  induction ps generalizing i with
  | nil => cases hp
  | cons first ps ih =>
      obtain ⟨hfirst, hps⟩ := List.pairwise_cons.mp h
      rw [List.countP_cons]
      cases hrequired : first.isRequired with
      | true =>
          cases i with
          | zero =>
              cases hp
              simp [hrequired]
          | succ i =>
              rw [ih hps hp, if_pos rfl]
              omega
      | false =>
          have hnone := countP_isRequired_eq_zero hfirst hrequired
          have hnot : p.isRequired = false := by
            rcases List.mem_cons.mp (List.mem_of_getElem? hp) with rfl | hmem
            · exact hrequired
            · simpa using List.countP_eq_zero.mp hnone p hmem
          rw [hnone, hnot]
          simp

namespace Recipe

variable {r : Recipe} {arguments : List Text} {i : Nat} {p : Parameter}

/-! ## Places of parameters -/

/-- A plain parameter has its place among all parameters. -/
theorem getElem?_parameters_of_positional (hord : OrderedParameters r.parameters)
    (hp : r.positional[i]? = some p) : r.parameters[i]? = some p := by
  obtain ⟨hlt, _⟩ := List.getElem?_eq_some_iff.mp hp
  rw [← positional_append_variadic hord, List.getElem?_append_left hlt]
  exact hp

/-- A required parameter is a plain one. -/
theorem getElem?_positional_of_isRequired (hord : OrderedParameters r.parameters)
    (hp : r.parameters[i]? = some p) (hrequired : p.isRequired = true) :
    r.positional[i]? = some p := by
  rw [← positional_append_variadic hord] at hp
  rcases Nat.lt_or_ge i r.positional.length with hlt | hge
  · rwa [List.getElem?_append_left hlt] at hp
  · rw [List.getElem?_append_right hge] at hp
    have hvariadic := Option.mem_toList.mp (List.mem_of_getElem? hp)
    unfold variadic? at hvariadic
    have hvariadic := (Option.filter_eq_some_iff.mp hvariadic).2
    simp [Parameter.isRequired, hvariadic] at hrequired

theorem variadic_eq_false_of_positional (hp : r.positional[i]? = some p) : p.variadic = false := by
  simpa using (List.mem_filter.mp (List.mem_of_getElem? hp)).2

/-- Without a variadic parameter all parameters are plain. -/
theorem positional_eq_parameters (hord : OrderedParameters r.parameters)
    (hv : r.variadic? = none) : r.positional = r.parameters := by
  have happend := positional_append_variadic hord
  rwa [hv, Option.toList_none, List.append_nil] at happend

/-- The greatest number of arguments, if there is one, is that of the plain parameters. -/
theorem maxArguments?_eq_some_iff (hord : OrderedParameters r.parameters) {m : Nat} :
    r.maxArguments? = some m ↔ r.variadic? = none ∧ m = r.positional.length := by
  unfold maxArguments?
  cases hv : r.variadic? with
  | some p => simp
  | none =>
      rw [positional_eq_parameters hord hv]
      simp [eq_comm]

/-! ## Numbers of arguments -/

/-- Where arguments are missing, the first parameter without one is a required one. -/
theorem exists_missing (hord : OrderedParameters r.parameters)
    (hlt : arguments.length < r.minArguments) :
    ∃ p, r.parameters[arguments.length]? = some p ∧ r.positional[arguments.length]? = some p ∧
      p.default = none := by
  have hlength : arguments.length < r.parameters.length :=
    Nat.lt_of_lt_of_le hlt (List.countP_le_length)
  have hp := List.getElem?_eq_getElem hlength
  have hrequired := (isRequired_iff_lt hord.required_first hp).mpr hlt
  refine ⟨_, hp, getElem?_positional_of_isRequired hord hp hrequired, ?_⟩
  unfold Parameter.isRequired at hrequired
  simpa using (Bool.and_eq_true_iff.mp hrequired).1

/-- The plain parameters without an argument have defaults exactly if there are arguments for all
required ones. -/
theorem enough_iff (hord : OrderedParameters r.parameters) :
    (∀ p ∈ r.positional.drop arguments.length, p.default ≠ none) ↔
      r.minArguments ≤ arguments.length := by
  constructor
  · intro henough
    by_contra hlt
    obtain ⟨p, _, hp, hnone⟩ := exists_missing hord (Nat.lt_of_not_le hlt)
    have hmem : p ∈ r.positional.drop arguments.length :=
      List.mem_of_getElem? (i := 0) (by rw [List.getElem?_drop]; exact hp)
    exact henough p hmem hnone
  · intro hle p hmem hnone
    obtain ⟨j, hj⟩ := List.mem_iff_getElem?.mp hmem
    rw [List.getElem?_drop] at hj
    have hrequired : p.isRequired = true := by
      simp [Parameter.isRequired, hnone, variadic_eq_false_of_positional hj]
    have hlt := (isRequired_iff_lt hord.required_first
      (getElem?_parameters_of_positional hord hj)).mp hrequired
    unfold minArguments at hle
    omega

/-- **Arguments fill a recipe exactly if their number is right.** -/
theorem fills_iff (hord : OrderedParameters r.parameters) :
    r.Fills arguments ↔
      r.minArguments ≤ arguments.length ∧ ∀ m ∈ r.maxArguments?, arguments.length ≤ m := by
  constructor
  · intro h
    refine ⟨(enough_iff hord).mp h.enough, fun m hm => ?_⟩
    obtain ⟨hv, rfl⟩ := (maxArguments?_eq_some_iff hord).mp hm
    exact h.none_left hv
  · rintro ⟨hmin, hmax⟩
    exact ⟨(enough_iff hord).mpr hmin, fun hv =>
      hmax _ ((maxArguments?_eq_some_iff hord).mpr ⟨hv, rfl⟩)⟩

/-- With too few arguments, the parameter behind the last argument is missing one. -/
theorem bind_of_few (hord : OrderedParameters r.parameters)
    (hlt : arguments.length < r.minArguments) :
    ∃ p, r.parameters[arguments.length]? = some p ∧ r.bind arguments =
      .error (.missingArgument r.name p.name r.minArguments arguments.length) := by
  obtain ⟨p, hparameter, hp, hnone⟩ := exists_missing hord hlt
  refine ⟨p, hparameter, ?_⟩
  obtain ⟨hlength, hget⟩ := List.getElem?_eq_some_iff.mp hp
  have hfind : (r.positional.drop arguments.length).find? (·.default.isNone) = some p := by
    rw [List.drop_eq_getElem_cons hlength, hget, List.find?_cons_of_pos (by simp [hnone])]
  unfold bind
  rw [bindPlain_eq r arguments.length (nodup_positional hord) (by simp), hfind]
  rfl

/-- With too many arguments, those behind the greatest number are left over. -/
theorem bind_of_many (hord : OrderedParameters r.parameters) {m : Nat}
    (hm : r.maxArguments? = some m) (hlt : m < arguments.length) :
    r.bind arguments = .error (.extraArguments r.name (arguments.drop m) m) := by
  obtain ⟨hv, rfl⟩ := (maxArguments?_eq_some_iff hord).mp hm
  have hnone : r.positional.drop arguments.length = [] := List.drop_of_length_le (Nat.le_of_lt hlt)
  have hleft : (arguments.drop r.positional.length).isEmpty = false := by
    rw [List.isEmpty_eq_false_iff]
    exact fun h => absurd (List.drop_eq_nil_iff.mp h) (Nat.not_le_of_lt hlt)
  unfold bind
  rw [bindPlain_eq r arguments.length (nodup_positional hord) (by simp), hnone, hv,
    ← positional_eq_parameters hord hv]
  show (if (arguments.drop r.positional.length).isEmpty then _ else _) = _
  rw [hleft]
  rfl

/-! ## The values of parameters -/

/-- What the parameters of a recipe are bound to, each by its place. -/
structure Binds (r : Recipe) (arguments : List Text) (b : Bindings) : Prop where
  names : b.map (·.1) = r.parameters.map (·.name)
  taken : ∀ (i : Nat) (p : Parameter) (argument : Text), r.positional[i]? = some p →
    arguments[i]? = some argument → b.get? p.name = some (.one argument)
  by_default : ∀ (i : Nat) (p : Parameter), r.positional[i]? = some p → arguments.length ≤ i →
    ∃ d, p.default = some d ∧ b.get? p.name = some (.one d)
  left : ∀ p : Parameter, r.variadic? = some p → r.positional.length < arguments.length →
    b.get? p.name = some (.many (arguments.drop r.positional.length))
  left_by_default : ∀ (p : Parameter) (d : Text), r.variadic? = some p →
    arguments.length ≤ r.positional.length → p.default = some d → d ≠ [] →
    b.get? p.name = some (.many [d])
  nothing_left : ∀ p : Parameter, r.variadic? = some p →
    arguments.length ≤ r.positional.length → p.default = none ∨ p.default = some [] →
    b.get? p.name = some (.many [])

/-- The value of a plain parameter is the argument at its place, or else its default. -/
theorem getElem?_plainValues {ps : List Parameter}
    (henough : ∀ p ∈ ps.drop arguments.length, p.default ≠ none) (hp : ps[i]? = some p) :
    (plainValues ps arguments)[i]? = arguments[i]?.or p.default := by
  induction ps generalizing arguments i with
  | nil => cases hp
  | cons first ps ih =>
      cases arguments with
      | cons argument rest =>
          rw [plainValues_cons_cons]
          cases i with
          | zero => rfl
          | succ i => exact ih henough hp
      | nil =>
          have hdefaults : ∀ q ∈ ps, q.default ≠ none := fun q hq =>
            henough q (List.mem_cons_of_mem first hq)
          obtain ⟨d, hd⟩ := Option.ne_none_iff_exists'.mp (henough first List.mem_cons_self)
          have hcons : plainValues (first :: ps) [] = d :: plainValues ps [] := by
            simp [plainValues, hd]
          rw [hcons]
          cases i with
          | zero =>
              cases hp
              exact hd.symm
          | succ i => exact ih hdefaults hp

/-- A plain parameter is bound to the value at its place. -/
theorem get?_bound_plain (hord : OrderedParameters r.parameters) (hfills : r.Fills arguments)
    (hp : r.positional[i]? = some p) {value : Text}
    (hvalue : arguments[i]?.or p.default = some value) :
    (r.bound arguments).get? p.name = some (.one value) := by
  refine get?_bound_of_mem hord hfills (List.mem_append_left _ ?_)
  refine List.mem_of_getElem? (i := i) ?_
  rw [List.getElem?_zip_eq_some, List.getElem?_map, List.getElem?_map, hp,
    getElem?_plainValues hfills.enough hp, hvalue]
  exact ⟨rfl, rfl⟩

/-- **Every parameter is bound by its place.** -/
theorem binds_bound (hord : OrderedParameters r.parameters) (hfills : r.Fills arguments) :
    r.Binds arguments (r.bound arguments) := by
  have hnone_left : arguments.length ≤ r.positional.length →
      arguments.drop r.positional.length = [] := List.drop_of_length_le
  constructor
  · exact names_bound hord hfills
  · intro i p argument hp hargument
    refine get?_bound_plain hord hfills hp ?_
    rw [hargument]
    rfl
  · intro i p hp hle
    have hmem : p ∈ r.positional.drop arguments.length :=
      List.mem_of_getElem? (i := i - arguments.length) (by
        rw [List.getElem?_drop, Nat.add_sub_cancel' hle]
        exact hp)
    obtain ⟨d, hd⟩ := Option.ne_none_iff_exists'.mp (hfills.enough p hmem)
    refine ⟨d, hd, get?_bound_plain hord hfills hp ?_⟩
    rw [List.getElem?_eq_none hle, hd]
    rfl
  · intro p hp hlt
    have hrest : (arguments.drop r.positional.length).isEmpty = false := by
      rw [List.isEmpty_eq_false_iff]
      exact fun h => absurd (List.drop_eq_nil_iff.mp h) (Nat.not_le_of_lt hlt)
    rw [get?_bound_variadic hord hfills hp, variadicValue, hrest]
    rfl
  · intro p d hp hle hd hne
    rw [get?_bound_variadic hord hfills hp, hnone_left hle, variadicValue, hd]
    simp [hne]
  · intro p hp hle hd
    rw [get?_bound_variadic hord hfills hp, hnone_left hle, variadicValue]
    rcases hd with hd | hd
    · rw [hd]
      rfl
    · rw [hd]
      rfl

end Recipe

/-! ## Recipes of a registry -/

/-- **Binding is decided by the number of arguments.** For a recipe of a registry that was read from a
text, arguments bind exactly if they are neither fewer than the least number nor more than the
greatest. If they are fewer, the parameter at the place behind the last argument is missing one; if
they are more, those behind the greatest number are left over. Where they bind, each parameter is
bound by its place. -/
theorem bind_of_count {source : Option Path} {t : Text} {reg : Registry}
    (hload : Registry.ofText source t = .ok reg) {r : Recipe} (hr : r ∈ reg.recipes)
    (arguments : List Text) :
    ((∃ b, r.bind arguments = .ok b) ↔
      r.minArguments ≤ arguments.length ∧ ∀ m ∈ r.maxArguments?, arguments.length ≤ m) ∧
    (arguments.length < r.minArguments → ∃ p, r.parameters[arguments.length]? = some p ∧
      r.bind arguments = .error (.missingArgument r.name p.name r.minArguments arguments.length)) ∧
    (∀ m ∈ r.maxArguments?, m < arguments.length →
      r.bind arguments = .error (.extraArguments r.name (arguments.drop m) m)) ∧
    ∀ b, r.bind arguments = .ok b → r.Binds arguments b := by
  have hord := (Registry.checked_of_ofText hload hr).ordered
  refine ⟨?_, Recipe.bind_of_few hord, fun m hm => Recipe.bind_of_many hord hm, fun b hbind => ?_⟩
  · rw [← Recipe.fills_iff hord]
    constructor
    · rintro ⟨b, hbind⟩
      exact ((Recipe.bind_eq_ok_iff_fills hord).mp hbind).1
    · intro hfills
      exact ⟨_, (Recipe.bind_eq_ok_iff_fills hord).mpr ⟨hfills, rfl⟩⟩
  · obtain ⟨hfills, rfl⟩ := (Recipe.bind_eq_ok_iff_fills hord).mp hbind
    exact Recipe.binds_bound hord hfills

/-- The theorem at a recipe with parameters of all three kinds and more arguments than its plain
parameters take. -/
theorem bind_of_count_three_kinds :
    let t := "r a b=\"x\" *v='y':\n".toList
    let r : Recipe := {
      name := ['r']
      parameters := [⟨['a'], none, false⟩, ⟨['b'], some ['x'], false⟩, ⟨['v'], some ['y'], true⟩]
      line := 1 }
    let arguments : List Text := [['1'], [], ['3'], ['4']]
    (Registry.ofText none t = .ok { recipes := [r] } ∧ r ∈ [r] ∧
      r.bind arguments = .ok [(['a'], .one ['1']), (['b'], .one []), (['v'], .many [['3'], ['4']])] ∧
      r.bind [] = .error (.missingArgument ['r'] ['a'] 1 0)) ∧
    ((∃ b, r.bind arguments = .ok b) ↔
      r.minArguments ≤ arguments.length ∧ ∀ m ∈ r.maxArguments?, arguments.length ≤ m) ∧
    (arguments.length < r.minArguments → ∃ p, r.parameters[arguments.length]? = some p ∧
      r.bind arguments = .error (.missingArgument r.name p.name r.minArguments arguments.length)) ∧
    (∀ m ∈ r.maxArguments?, m < arguments.length →
      r.bind arguments = .error (.extraArguments r.name (arguments.drop m) m)) ∧
    ∀ b, r.bind arguments = .ok b → r.Binds arguments b := by
  intro t r arguments
  have hload : Registry.ofText none t = .ok { recipes := [r] } := by decide +kernel
  have hbind : r.bind arguments =
      .ok [(['a'], .one ['1']), (['b'], .one []), (['v'], .many [['3'], ['4']])] := by decide +kernel
  have hmissing : r.bind [] = .error (.missingArgument ['r'] ['a'] 1 0) := by decide +kernel
  exact ⟨⟨hload, List.mem_singleton_self r, hbind, hmissing⟩,
    bind_of_count hload (List.mem_singleton_self r) arguments⟩

end Runbook
