import Runbook.Proofs.Invocation.Arguments

set_option autoImplicit false

/-! # Values bind to themselves

The values that a recipe hands to the shell are the arguments with the defaults behind them. Given as
arguments in their turn they fill every parameter, the default of a variadic parameter being an
argument like any other now, and bind to what the arguments were bound to. An empty default of a
variadic parameter is no value, so that nothing is added for it, and nothing is bound again.
-/

namespace Runbook

namespace Recipe

variable {r : Recipe} {arguments : List Text}

/-- The values of the variadic parameter, if there is one. -/
def leftValues (r : Recipe) (arguments : List Text) : List Text :=
  r.variadic?.toList.flatMap fun p =>
    (variadicValue p (arguments.drop r.positional.length)).arguments

/-- A variadic parameter is bound to the same value by what it has been bound to. -/
theorem variadicValue_arguments (p : Parameter) (rest : List Text) :
    variadicValue p (variadicValue p rest).arguments = variadicValue p rest := by
  cases rest with
  | cons argument rest => rfl
  | nil =>
      unfold variadicValue
      cases p.default with
      | none => rfl
      | some d =>
          cases d with
          | nil => rfl
          | cons c d => rfl

/-- Values for all plain parameters are what these are bound to, whatever stands behind them. -/
theorem plainValues_append {ps : List Parameter} {values : List Text}
    (h : values.length = ps.length) (rest : List Text) : plainValues ps (values ++ rest) = values := by
  have hdrop : ps.drop (values ++ rest).length = [] := by
    refine List.drop_of_length_le ?_
    rw [List.length_append]
    omega
  unfold plainValues
  rw [hdrop, List.filterMap_nil, List.append_nil, List.take_append_of_le_length (Nat.le_of_eq h.symm),
    List.take_of_length_le (Nat.le_of_eq h)]

/-- The arguments with the defaults behind them are the values of the plain parameters and those of the
variadic one. -/
theorem append_fallbacks_eq (hfills : r.Fills arguments) :
    arguments ++ r.fallbacks arguments =
      plainValues r.positional arguments ++ r.leftValues arguments := by
  have hlength : (r.positional.map (·.name)).length =
      (plainValues r.positional arguments).length := by
    rw [List.length_map, length_plainValues hfills.enough]
  rw [← arguments_bound hfills]
  unfold bound leftValues
  rw [List.flatMap_append, arguments_zip_one hlength, List.flatMap_map]

/-- The values fill the parameters. -/
theorem fills_values (hfills : r.Fills arguments) :
    r.Fills (plainValues r.positional arguments ++ r.leftValues arguments) := by
  have hlength := length_plainValues hfills.enough
  constructor
  · intro p hp
    rw [List.drop_of_length_le (by rw [List.length_append]; omega)] at hp
    cases hp
  · intro hv
    have hnone : r.leftValues arguments = [] := by
      unfold leftValues
      rw [hv]
      rfl
    rw [hnone, List.append_nil, hlength]

/-- **The values bind to what the arguments are bound to.** -/
theorem bound_values (hfills : r.Fills arguments) :
    r.bound (plainValues r.positional arguments ++ r.leftValues arguments) = r.bound arguments := by
  have hlength := length_plainValues hfills.enough
  unfold bound
  rw [plainValues_append hlength, List.drop_left' hlength]
  congr 1
  unfold leftValues
  cases r.variadic? with
  | none => rfl
  | some p =>
      rw [Option.toList_some, List.flatMap_singleton, List.map_singleton, List.map_singleton,
        variadicValue_arguments]

end Recipe

/-- **Handing the values of a recipe to itself changes nothing.** For a recipe of a registry that was
read from a text and arguments that bind, the values begin with the arguments, and they bind in the
same way, and so have the same values. -/
theorem bind_positionalValues {source : Option Path} {t : Text} {reg : Registry}
    (hload : Registry.ofText source t = .ok reg) {r : Recipe} (hr : r ∈ reg.recipes)
    {arguments : List Text} {b : Bindings} (hbind : r.bind arguments = .ok b) :
    ∃ values, r.positionalValues b = .ok values ∧ arguments <+: values ∧
      r.bind values = .ok b ∧
      ∀ again, r.bind values = .ok again → r.positionalValues again = .ok values := by
  have hord := (Registry.checked_of_ofText hload hr).ordered
  obtain ⟨hfills, rfl⟩ := (Recipe.bind_eq_ok_iff_fills hord).mp hbind
  have hvalues := Recipe.positionalValues_bound hord hfills
  have hagain : r.bind (arguments ++ r.fallbacks arguments) = .ok (r.bound arguments) := by
    rw [Recipe.append_fallbacks_eq hfills, Recipe.bind_eq_ok_iff_fills hord]
    exact ⟨Recipe.fills_values hfills, (Recipe.bound_values hfills).symm⟩
  refine ⟨_, hvalues, List.prefix_append arguments _, hagain, fun again h => ?_⟩
  rw [hagain] at h
  cases h
  exact hvalues

/-- The theorem at a recipe with an empty default for a plain parameter and another default for its
variadic one. -/
theorem bind_positionalValues_defaults :
    let t := "r a b='' *v='y z':\n".toList
    let r : Recipe := {
      name := ['r']
      parameters := [⟨['a'], none, false⟩, ⟨['b'], some [], false⟩,
        ⟨['v'], some "y z".toList, true⟩]
      line := 1 }
    let b : Bindings := [(['a'], .one ['1']), (['b'], .one []), (['v'], .many ["y z".toList])]
    (Registry.ofText none t = .ok { recipes := [r] } ∧ r.bind [['1']] = .ok b ∧
      r.positionalValues b = .ok [['1'], [], "y z".toList]) ∧
    ∃ values, r.positionalValues b = .ok values ∧ [['1']] <+: values ∧
      r.bind values = .ok b ∧
      ∀ again, r.bind values = .ok again → r.positionalValues again = .ok values := by
  intro t r b
  have hload : Registry.ofText none t = .ok { recipes := [r] } := by decide +kernel
  have hbind : r.bind [['1']] = .ok b := by decide +kernel
  have hvalues : r.positionalValues b = .ok [['1'], [], "y z".toList] := by decide +kernel
  exact ⟨⟨hload, hbind, hvalues⟩, bind_positionalValues hload (List.mem_singleton_self r) hbind⟩

end Runbook
