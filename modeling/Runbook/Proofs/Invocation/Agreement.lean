import Runbook.Proofs.Invocation.Arity
import Runbook.Proofs.Invocation.Rebinding
import Runbook.Proofs.Invocation.Rendering

set_option autoImplicit false

/-! # Lines and the shell are given the same values

The values of a recipe's parameters go two ways: into the lines, in the place of the placeholders that
name the parameters, and to the shell, as a list in the order of the parameters. The list is the values
of the plain parameters, as many as there are of these, and behind them those of the variadic one. So
a placeholder of a plain parameter is rendered as the element of the list at the parameter's place, and
one of the variadic parameter as all elements behind those, with single spaces between them.
-/

namespace Runbook

namespace Recipe

variable {r : Recipe} {arguments : List Text} {p : Parameter}

/-- A variadic parameter is rendered as its values with single spaces between them. -/
theorem text_variadicValue (p : Parameter) (rest : List Text) :
    (variadicValue p rest).text = Text.join [' '] (variadicValue p rest).arguments := by
  unfold variadicValue
  split
  · split <;> rfl
  · rfl

/-- Without a variadic parameter there are no values but those of the plain ones. -/
theorem leftValues_of_none (hv : r.variadic? = none) : r.leftValues arguments = [] := by
  unfold leftValues
  rw [hv]
  rfl

theorem leftValues_of_some (hv : r.variadic? = some p) :
    r.leftValues arguments =
      (variadicValue p (arguments.drop r.positional.length)).arguments := by
  unfold leftValues
  rw [hv, Option.toList_some, List.flatMap_singleton]

/-- **What a line shows of a plain parameter is the element at the parameter's place.** -/
theorem exists_shows_plain (hord : OrderedParameters r.parameters) (hfills : r.Fills arguments)
    {i : Nat} (hp : r.positional[i]? = some p) :
    ∃ value, (plainValues r.positional arguments ++ r.leftValues arguments)[i]? = some value ∧
      r.Shows (r.bound arguments) p.name value := by
  have hlt : i < (plainValues r.positional arguments).length := by
    rw [length_plainValues hfills.enough]
    exact (List.getElem?_eq_some_iff.mp hp).1
  have hvalue := List.getElem?_eq_getElem hlt
  have hget := get?_bound_plain hord hfills hp
    ((getElem?_plainValues hfills.enough hp).symm.trans hvalue)
  refine ⟨_, ?_, shows_of_get? hget⟩
  rw [List.getElem?_append_left hlt]
  exact hvalue

/-- **What a line shows of the variadic parameter is the elements behind the plain ones.** -/
theorem shows_variadic (hord : OrderedParameters r.parameters) (hfills : r.Fills arguments)
    (hp : r.variadic? = some p) :
    r.Shows (r.bound arguments) p.name (Text.join [' ']
      ((plainValues r.positional arguments ++ r.leftValues arguments).drop
        r.positional.length)) := by
  have hshows := shows_of_get? (r := r) (get?_bound_variadic hord hfills hp)
  rw [List.drop_left' (length_plainValues hfills.enough), leftValues_of_some hp,
    ← text_variadicValue]
  exact hshows

end Recipe

/-- **Lines and the shell are given the same values.** For a recipe of a registry that was read from a
text and arguments that bind, a placeholder of a plain parameter is rendered as the element of the
shell's values at the parameter's place among the plain ones; a placeholder of the variadic parameter
as the elements behind those of the plain ones, with single spaces between them; and without a variadic
parameter there are as many values as plain parameters. -/
theorem positionalValues_shown {source : Option Path} {t : Text} {reg : Registry}
    (hload : Registry.ofText source t = .ok reg) {r : Recipe} (hr : r ∈ reg.recipes)
    {arguments : List Text} {b : Bindings} (hbind : r.bind arguments = .ok b) :
    ∃ values, r.positionalValues b = .ok values ∧
      (∀ (i : Nat) (p : Parameter), r.positional[i]? = some p →
        ∃ value, values[i]? = some value ∧ r.Shows b p.name value) ∧
      (∀ p : Parameter, r.variadic? = some p →
        r.Shows b p.name (Text.join [' '] (values.drop r.positional.length))) ∧
      (r.variadic? = none → values.length = r.positional.length) := by
  have hord := (Registry.checked_of_ofText hload hr).ordered
  obtain ⟨hfills, rfl⟩ := (Recipe.bind_eq_ok_iff_fills hord).mp hbind
  have hvalues := Recipe.positionalValues_bound hord hfills
  rw [Recipe.append_fallbacks_eq hfills] at hvalues
  refine ⟨_, hvalues, fun i p => Recipe.exists_shows_plain hord hfills,
    fun p => Recipe.shows_variadic hord hfills, fun hv => ?_⟩
  rw [Recipe.leftValues_of_none hv, List.append_nil, Recipe.length_plainValues hfills.enough]

/-- The theorem at a recipe with parameters of all three kinds, the variadic one of which takes an empty
argument and another one. -/
theorem positionalValues_shown_three_kinds :
    let t := "r a b='x y' *v:\n  {{b}}{{ v }}{{a}}\n".toList
    let r : Recipe := {
      name := ['r']
      parameters := [⟨['a'], none, false⟩, ⟨['b'], some "x y".toList, false⟩, ⟨['v'], none, true⟩]
      body := ["{{b}}{{ v }}{{a}}".toList]
      line := 1 }
    let arguments : List Text := [['1'], ['2'], [], ['4']]
    let b : Bindings := [(['a'], .one ['1']), (['b'], .one ['2']), (['v'], .many [[], ['4']])]
    (Registry.ofText none t = .ok { recipes := [r] } ∧ r.bind arguments = .ok b ∧
      r.positionalValues b = .ok arguments ∧ r.render b = .ok ["2 41".toList]) ∧
    ∃ values, r.positionalValues b = .ok values ∧
      (∀ (i : Nat) (p : Parameter), r.positional[i]? = some p →
        ∃ value, values[i]? = some value ∧ r.Shows b p.name value) ∧
      (∀ p : Parameter, r.variadic? = some p →
        r.Shows b p.name (Text.join [' '] (values.drop r.positional.length))) ∧
      (r.variadic? = none → values.length = r.positional.length) := by
  intro t r arguments b
  have hload : Registry.ofText none t = .ok { recipes := [r] } := by decide +kernel
  have hbind : r.bind arguments = .ok b := by decide +kernel
  have hvalues : r.positionalValues b = .ok arguments := by decide +kernel
  have hrender : r.render b = .ok ["2 41".toList] := by decide +kernel
  exact ⟨⟨hload, hbind, hvalues, hrender⟩,
    positionalValues_shown hload (List.mem_singleton_self r) hbind⟩

end Runbook
