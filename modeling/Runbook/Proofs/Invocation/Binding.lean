import Runbook.Proofs.Invocation.Rendering

set_option autoImplicit false

/-! # What binding gives

For parameters in order, `bind` has a closed form: it succeeds when the plain parameters that no
argument is left for have defaults and no argument is left over, and the bindings are then
`bound`, the plain parameters with their arguments or defaults followed by the variadic one with
the rest. The names that are bound are those of the parameters, in their order.
-/

namespace Runbook

/-! ## Bindings -/

namespace Bindings

variable {b : Bindings} {name : Text} {value : Bound}

/-- A name that is new is bound behind the others. -/
theorem put_of_notMem (h : name ∉ b.map (·.1)) : put b name value = b ++ [(name, value)] := by
  induction b with
  | nil => rfl
  | cons pair b ih =>
      obtain ⟨n, v⟩ := pair
      rw [List.map_cons, List.mem_cons, not_or] at h
      have hn : (n == name) = false := by simpa using Ne.symm h.1
      rw [put, hn, ih h.2]
      rfl

theorem isSome_get?_iff : (get? b name).isSome = true ↔ name ∈ b.map (·.1) := by
  unfold get?
  rw [Option.isSome_map, List.find?_isSome, List.mem_map]
  simp

/-- Where no name is bound twice, every pair counts. -/
theorem get?_eq_some_iff (hb : (b.map (·.1)).Nodup) :
    get? b name = some value ↔ (name, value) ∈ b := by
  unfold get?
  rw [Option.map_eq_some_iff]
  constructor
  · rintro ⟨⟨n, v⟩, hfind, rfl⟩
    have hn : n = name := by simpa using List.find?_some hfind
    rw [← hn]
    exact List.mem_of_find?_eq_some hfind
  · intro hmem
    induction b with
    | nil => cases hmem
    | cons pair b ih =>
        obtain ⟨n, v⟩ := pair
        rw [List.map_cons, List.nodup_cons] at hb
        rcases List.mem_cons.mp hmem with heq | hmem
        · cases heq
          exact ⟨(name, value), by simp, rfl⟩
        · have hne : (n == name) = false := by
            rw [beq_eq_false_iff_ne]
            rintro rfl
            exact hb.1 (List.mem_map_of_mem (f := (·.1)) hmem)
          rw [List.find?_cons, hne]
          exact ih hb.2 hmem

end Bindings

/-! ## The order of parameters -/

theorem OrderedParameters.eq_of_name_eq {ps : List Parameter} (h : OrderedParameters ps)
    {p q : Parameter} (hp : p ∈ ps) (hq : q ∈ ps) (hname : p.name = q.name) : p = q :=
  List.inj_on_of_nodup_map h.distinct hp hq hname

/-- Where only the last parameter may be variadic, the plain ones stand before it. -/
theorem filter_append_variadic {ps : List Parameter}
    (h : ∀ p ∈ ps.dropLast, p.variadic = false) :
    ps.filter (fun p => !p.variadic) ++ (ps.getLast?.filter (·.variadic)).toList = ps := by
  induction ps using List.reverseRecOn with
  | nil => rfl
  | append_singleton ps p _ =>
      rw [List.dropLast_concat] at h
      have hplain : ps.filter (fun q => !q.variadic) = ps := by
        rw [List.filter_eq_self]
        intro q hq
        rw [h q hq]
        rfl
      rw [List.filter_append, hplain, List.getLast?_concat]
      cases hp : p.variadic with
      | false => simp [hp]
      | true => simp [hp]

namespace Recipe

/-- Parameters in order are the plain ones and then the variadic one. -/
theorem positional_append_variadic {r : Recipe} (h : OrderedParameters r.parameters) :
    r.positional ++ r.variadic?.toList = r.parameters :=
  filter_append_variadic h.variadic_last

theorem nodup_positional {r : Recipe} (h : OrderedParameters r.parameters) :
    (r.positional.map (·.name)).Nodup := by
  have hdistinct := h.distinct
  rw [← positional_append_variadic h, List.map_append, List.nodup_append] at hdistinct
  exact hdistinct.1

/-- The name of the variadic parameter is not that of a plain one. -/
theorem variadic_notMem_positional {r : Recipe} (h : OrderedParameters r.parameters)
    {p : Parameter} (hp : r.variadic? = some p) : p.name ∉ r.positional.map (·.name) := by
  have hdistinct := h.distinct
  rw [← positional_append_variadic h, hp, List.map_append, List.nodup_append] at hdistinct
  intro hmem
  exact hdistinct.2.2 _ hmem p.name (by simp) rfl

/-! ## The closed form -/

/-- The values of plain parameters: the arguments as far as they go, then the defaults. -/
def plainValues (ps : List Parameter) (arguments : List Text) : List Text :=
  arguments.take ps.length ++ (ps.drop arguments.length).filterMap (·.default)

/-- The bindings of a recipe's parameters to arguments that fill them. -/
def bound (r : Recipe) (arguments : List Text) : Bindings :=
  (r.positional.map (·.name)).zip ((plainValues r.positional arguments).map .one) ++
    r.variadic?.toList.map fun p =>
      (p.name, variadicValue p (arguments.drop r.positional.length))

/-- Whether arguments fill the parameters of a recipe and none is left over. -/
structure Fills (r : Recipe) (arguments : List Text) : Prop where
  enough : ∀ p ∈ r.positional.drop arguments.length, p.default ≠ none
  none_left : r.variadic? = none → arguments.length ≤ r.positional.length

theorem plainValues_cons_cons (p : Parameter) (ps : List Parameter) (argument : Text)
    (rest : List Text) :
    plainValues (p :: ps) (argument :: rest) = argument :: plainValues ps rest := rfl

/-- Every plain parameter has a value, if those that no argument is left for have defaults. -/
theorem length_plainValues {ps : List Parameter} {arguments : List Text}
    (h : ∀ p ∈ ps.drop arguments.length, p.default ≠ none) :
    (plainValues ps arguments).length = ps.length := by
  have hdefaults : ((ps.drop arguments.length).filterMap (·.default)).length
      = (ps.drop arguments.length).length := by
    rw [List.length_filterMap_eq_countP, List.countP_eq_length]
    intro p hp
    exact Option.isSome_iff_ne_none.mpr (h p hp)
  unfold plainValues
  rw [List.length_append, hdefaults, List.length_take, List.length_drop]
  omega

/-- Binding plain parameters: the first one without a value is missing, or else all are bound
behind what was bound before. -/
theorem bindPlain_eq (r : Recipe) (got : Nat) {ps : List Parameter} {arguments : List Text}
    {b : Bindings} (hdistinct : (ps.map (·.name)).Nodup)
    (hnew : ∀ p ∈ ps, p.name ∉ b.map (·.1)) :
    r.bindPlain got ps arguments b =
      match (ps.drop arguments.length).find? (·.default.isNone) with
      | some p => .error (.missingArgument r.name p.name r.minArguments got)
      | none => .ok (b ++ (ps.map (·.name)).zip ((plainValues ps arguments).map .one),
          arguments.drop ps.length) := by
  induction ps generalizing arguments b with
  | nil => simp [bindPlain]
  | cons p ps ih =>
      rw [List.map_cons, List.nodup_cons] at hdistinct
      -- the bindings grow by one pair at the end, whichever value the parameter gets
      have hput : ∀ value : Bound, b.put p.name value = b ++ [(p.name, value)] := fun value =>
        Bindings.put_of_notMem (hnew p (by simp))
      have hnew' : ∀ value : Bound, ∀ q ∈ ps, q.name ∉ (b ++ [(p.name, value)]).map (·.1) := by
        intro value q hq hmem
        rw [List.map_append, List.mem_append] at hmem
        rcases hmem with hmem | hmem
        · exact hnew q (by simp [hq]) hmem
        · have hname : q.name = p.name := by simpa using hmem
          exact hdistinct.1 (hname ▸ List.mem_map_of_mem (f := (·.name)) hq)
      cases arguments with
      | cons argument rest =>
          rw [bindPlain, hput, ih hdistinct.2 (hnew' _), plainValues_cons_cons]
          simp
      | nil =>
          rw [bindPlain]
          cases hd : p.default with
          | none => simp [hd]
          | some d =>
              dsimp only
              rw [hput, ih hdistinct.2 (hnew' _)]
              simp [plainValues, hd]

/-- The names of the plain parameters are bound first. -/
theorem names_zip_plainValues {ps : List Parameter} {arguments : List Text}
    (h : ∀ p ∈ ps.drop arguments.length, p.default ≠ none) :
    ((ps.map (·.name)).zip ((plainValues ps arguments).map Bound.one)).map (·.1) =
      ps.map (·.name) :=
  List.map_fst_zip (by simp [length_plainValues h])

/-- **Binding succeeds exactly when the arguments fill the parameters**, and gives `bound`. -/
theorem bind_eq_ok_iff_fills {r : Recipe} (hord : OrderedParameters r.parameters)
    {arguments : List Text} {b : Bindings} :
    r.bind arguments = .ok b ↔ r.Fills arguments ∧ b = r.bound arguments := by
  unfold bind bound
  rw [bindPlain_eq r arguments.length (nodup_positional hord) (by simp)]
  cases hmissing : (r.positional.drop arguments.length).find? (·.default.isNone) with
  | some p =>
      dsimp only
      rw [error_bind]
      simp only [reduceCtorEq, false_iff]
      rintro ⟨hfills, _⟩
      have hnone : p.default = none := by simpa using List.find?_some hmissing
      exact hfills.enough p (List.mem_of_find?_eq_some hmissing) hnone
  | none =>
      have henough : ∀ p ∈ r.positional.drop arguments.length, p.default ≠ none := by
        intro p hp
        simpa using List.find?_eq_none.mp hmissing p hp
      dsimp only
      rw [ok_bind, List.nil_append]
      cases hv : r.variadic? with
      | some p =>
          -- the variadic parameter is not among the plain ones, so that it is bound at the end
          have hnew := variadic_notMem_positional hord hv
          rw [← names_zip_plainValues henough] at hnew
          have hfills : r.Fills arguments := ⟨henough, by simp [hv]⟩
          dsimp only
          rw [Bindings.put_of_notMem hnew, Except.ok.injEq, Option.toList_some,
            List.map_singleton]
          constructor
          · rintro rfl
            exact ⟨hfills, rfl⟩
          · rintro ⟨_, rfl⟩
            rfl
      | none =>
          have hfills : r.Fills arguments ↔ (arguments.drop r.positional.length).isEmpty = true := by
            rw [List.isEmpty_iff, List.drop_eq_nil_iff]
            exact ⟨fun h => h.none_left hv, fun h => ⟨henough, fun _ => h⟩⟩
          rw [hfills, Option.toList_none, List.map_nil, List.append_nil]
          dsimp only
          split
          · next hempty =>
              rw [Except.ok.injEq]
              exact ⟨fun h => ⟨hempty, h.symm⟩, fun h => h.2.symm⟩
          · next hempty => simp [hempty]

/-! ## The names and values that are bound -/

variable {r : Recipe} {arguments : List Text}

/-- The names that are bound are those of the parameters, in order. -/
theorem names_bound (hord : OrderedParameters r.parameters) (hfills : r.Fills arguments) :
    (r.bound arguments).map (·.1) = r.parameters.map (·.name) := by
  unfold bound
  rw [List.map_append, names_zip_plainValues hfills.enough, List.map_map]
  conv => rhs; rw [← positional_append_variadic hord, List.map_append]
  rfl

/-- What is bound is found under its name. -/
theorem get?_bound_of_mem (hord : OrderedParameters r.parameters) (hfills : r.Fills arguments)
    {name : Text} {value : Bound} (h : (name, value) ∈ r.bound arguments) :
    (r.bound arguments).get? name = some value :=
  (Bindings.get?_eq_some_iff (names_bound hord hfills ▸ hord.distinct)).mpr h

/-- A plain parameter is bound to one argument. -/
theorem get?_bound_of_plain (hord : OrderedParameters r.parameters) (hfills : r.Fills arguments)
    {p : Parameter} (hp : p ∈ r.parameters) (hplain : p.variadic = false) :
    ∃ value, (r.bound arguments).get? p.name = some (.one value) := by
  have hnames := names_bound hord hfills
  have hmem : p.name ∈ (r.bound arguments).map (·.1) := by
    rw [hnames]
    exact List.mem_map_of_mem hp
  obtain ⟨⟨name, value⟩, hpair, hname⟩ := List.mem_map.mp hmem
  dsimp only at hname
  rw [hname] at hpair
  have hget := get?_bound_of_mem hord hfills hpair
  rcases List.mem_append.mp hpair with hpair | hpair
  · obtain ⟨v, _, rfl⟩ := List.mem_map.mp (List.of_mem_zip hpair).2
    exact ⟨v, hget⟩
  · obtain ⟨q, hq, heq⟩ := List.mem_map.mp hpair
    have hqv : q.variadic = true := by
      have := Option.mem_toList.mp hq
      unfold variadic? at this
      exact (Option.filter_eq_some_iff.mp this).2
    have hqp : q ∈ r.parameters := by
      rw [← positional_append_variadic hord]
      exact List.mem_append_right _ hq
    have : q = p := hord.eq_of_name_eq hqp hp (congrArg Prod.fst heq)
    rw [this, hplain] at hqv
    cases hqv

/-- The variadic parameter is bound to the arguments behind those of the plain ones. -/
theorem get?_bound_variadic (hord : OrderedParameters r.parameters) (hfills : r.Fills arguments)
    {p : Parameter} (hp : r.variadic? = some p) :
    (r.bound arguments).get? p.name =
      some (variadicValue p (arguments.drop r.positional.length)) := by
  refine get?_bound_of_mem hord hfills (List.mem_append_right _ ?_)
  rw [hp]
  exact List.mem_singleton_self _

/-- The variadic parameter is bound to a list of arguments. -/
theorem get?_bound_of_variadic (hord : OrderedParameters r.parameters)
    (hfills : r.Fills arguments) {p : Parameter} (hp : p ∈ r.parameters)
    (hvariadic : p.variadic = true) :
    ∃ values, (r.bound arguments).get? p.name = some (.many values) := by
  have hpv : r.variadic? = some p := by
    rw [← positional_append_variadic hord, List.mem_append] at hp
    rcases hp with hp | hp
    · have := (List.mem_filter.mp hp).2
      rw [hvariadic] at this
      cases this
    · exact Option.mem_toList.mp hp
  have hget := get?_bound_variadic hord hfills hpv
  unfold variadicValue at hget
  split at hget
  · split at hget
    · exact ⟨_, hget⟩
    · exact ⟨_, hget⟩
  · exact ⟨_, hget⟩

/-! ## What is done with the values -/

variable {b : Bindings}

/-- Where every parameter is bound, all have values for the shell. -/
theorem exists_positionalValues (h : ∀ p ∈ r.parameters, (b.get? p.name).isSome = true) :
    ∃ values, r.positionalValues b = .ok values := by
  suffices hgo : ∀ ps : List Parameter, (∀ p ∈ ps, (b.get? p.name).isSome = true) →
      ∃ values, positionalValues.go b ps = .ok values from hgo r.parameters h
  intro ps
  induction ps with
  | nil => exact fun _ => ⟨[], rfl⟩
  | cons p ps ih =>
      intro hps
      obtain ⟨values, hvalues⟩ := ih fun q hq => hps q (by simp [hq])
      obtain ⟨v, hv⟩ := Option.isSome_iff_exists.mp (hps p (by simp))
      refine ⟨v.arguments ++ values, ?_⟩
      rw [positionalValues.go, hv, hvalues]
      rfl

end Recipe

/-! ## Recipes of a registry -/

/-- **What the reader checks is all that an invocation needs.** For a recipe of a loaded registry
and arguments that bind, the names that are bound are exactly those of the parameters, a plain one
to one argument and a variadic one to a list; the shell can be given all values; and the body is
rendered line for line. -/
theorem bind_render_of_load {t : Text} {reg : Registry} (hload : Registry.load t = .ok reg)
    {r : Recipe} (hr : r ∈ reg.recipes) {arguments : List Text} {b : Bindings}
    (hbind : r.bind arguments = .ok b) :
    (∀ name, (b.get? name).isSome = true ↔ ∃ p ∈ r.parameters, p.name = name) ∧
    (∀ p ∈ r.parameters, p.variadic = false → ∃ value, b.get? p.name = some (.one value)) ∧
    (∀ p ∈ r.parameters, p.variadic = true → ∃ values, b.get? p.name = some (.many values)) ∧
    (∃ values, r.positionalValues b = .ok values) ∧
    ∃ ls, r.render b = .ok ls ∧ ls.length = r.body.length := by
  have hchecked := Registry.checked_of_load hload hr
  have hord := hchecked.ordered
  obtain ⟨hfills, rfl⟩ := (Recipe.bind_eq_ok_iff_fills hord).mp hbind
  have hbound : ∀ name, ((r.bound arguments).get? name).isSome = true ↔
      ∃ p ∈ r.parameters, p.name = name := by
    intro name
    rw [Bindings.isSome_get?_iff, Recipe.names_bound hord hfills, List.mem_map]
  refine ⟨hbound, fun p hp => Recipe.get?_bound_of_plain hord hfills hp,
    fun p hp => Recipe.get?_bound_of_variadic hord hfills hp, ?_, ?_⟩
  · exact Recipe.exists_positionalValues fun p hp => (hbound p.name).mpr ⟨p, hp, rfl⟩
  · refine Recipe.exists_render fun template ht name hname => (hbound name).mpr ?_
    exact List.mem_map.mp (hchecked.declared template ht name hname)

/-- A recipe with parameters of all three kinds, the middle one of which has its default. -/
theorem bind_render_of_load_three_kinds :
    let t := "r a b=\"x\" *v:\n  run {{a}} {{ v }}\n\n  y {{b}}\n".toList
    let r : Recipe := {
      name := ['r']
      parameters := [⟨['a'], none, false⟩, ⟨['b'], some ['x'], false⟩, ⟨['v'], none, true⟩]
      body := ["run {{a}} {{ v }}".toList, "y {{b}}".toList]
      line := 1 }
    let b : Bindings := [(['a'], .one ['1']), (['b'], .one ['x']), (['v'], .many [])]
    (Registry.load t = .ok { recipes := [r] } ∧ r.bind [['1']] = .ok b) ∧
    (∀ name, (b.get? name).isSome = true ↔ ∃ p ∈ r.parameters, p.name = name) ∧
    (∀ p ∈ r.parameters, p.variadic = false → ∃ value, b.get? p.name = some (.one value)) ∧
    (∀ p ∈ r.parameters, p.variadic = true → ∃ values, b.get? p.name = some (.many values)) ∧
    (∃ values, r.positionalValues b = .ok values) ∧
    ∃ ls, r.render b = .ok ls ∧ ls.length = r.body.length := by
  intro t r b
  have hload : Registry.load t = .ok { recipes := [r] } := by decide +kernel
  have hbind : r.bind [['1']] = .ok b := by decide +kernel
  exact ⟨⟨hload, hbind⟩, bind_render_of_load hload (by simp) hbind⟩

end Runbook
