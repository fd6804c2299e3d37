import Runbook.Proofs.Execution.Trace
import Runbook.Proofs.Invocation.Executed
import Runbook.Proofs.RecipeFile.WellFormed

set_option autoImplicit false

/-! # Arguments reach the shell

With positional arguments, the process of a line is given the values of the parameters behind the
line and the name of the recipe. The values go through a map by name and are put in the order of the
parameters again; what comes out is the arguments as they were given, one by one, and behind them the
defaults of the parameters that no argument was left for. This holds for every process that an
invocation starts or tries to start, and these are as many as there are turns.
-/

namespace Runbook

/-! ## The values of the parameters -/

namespace Recipe

variable {r : Recipe} {arguments : List Text}

/-- The defaults that a recipe adds to arguments: those of the plain parameters that are left, in
order, and that of the variadic parameter if nothing is left for it, unless it is empty. -/
def fallbacks (r : Recipe) (arguments : List Text) : List Text :=
  (r.positional.drop arguments.length).filterMap (·.default) ++
    if arguments.length ≤ r.positional.length then
      (r.variadic?.toList.filterMap (·.default)).filter fun d => !d.isEmpty
    else []

/-- Parameters that are bound in their order have their values in this order. -/
theorem positionalValues_go {b pairs : Bindings} {ps : List Parameter}
    (hb : (b.map (·.1)).Nodup) (hpairs : ∀ pair ∈ pairs, pair ∈ b)
    (hnames : pairs.map (·.1) = ps.map (·.name)) :
    positionalValues.go b ps = .ok (pairs.flatMap fun pair => pair.2.arguments) := by
  induction ps generalizing pairs with
  | nil =>
      rw [List.map_nil, List.map_eq_nil_iff] at hnames
      rw [hnames]
      rfl
  | cons p ps ih =>
      cases pairs with
      | nil => cases hnames
      | cons pair pairs =>
          obtain ⟨name, value⟩ := pair
          rw [List.map_cons, List.map_cons, List.cons.injEq] at hnames
          obtain ⟨rfl, hnames⟩ := hnames
          have hget : b.get? p.name = some value :=
            (Bindings.get?_eq_some_iff hb).mpr (hpairs _ (by simp))
          rw [positionalValues.go, hget, ih (fun other h => hpairs other (by simp [h])) hnames]
          rfl

/-- The values of plain parameters are one argument each. -/
theorem arguments_zip_one {names values : List Text} (h : names.length = values.length) :
    (names.zip (values.map Bound.one)).flatMap (fun pair => pair.2.arguments) = values := by
  induction names generalizing values with
  | nil => rw [List.length_eq_zero_iff.mp h.symm]; rfl
  | cons name names ih =>
      cases values with
      | nil => cases h
      | cons value values =>
          rw [List.map_cons, List.zip_cons_cons, List.flatMap_cons, ih (Nat.succ.inj h)]
          rfl

/-- The arguments that a variadic parameter without any left is bound to. -/
theorem arguments_variadicValue_nil (p : Parameter) :
    (variadicValue p []).arguments = p.default.toList.filter fun d => !d.isEmpty := by
  unfold variadicValue
  cases p.default with
  | none => rfl
  | some d => cases d <;> rfl

/-- **The values are the arguments and then the defaults.** -/
theorem arguments_bound (hfills : r.Fills arguments) :
    (r.bound arguments).flatMap (fun pair => pair.2.arguments) =
      arguments ++ r.fallbacks arguments := by
  have hlength : (r.positional.map (·.name)).length =
      (plainValues r.positional arguments).length := by
    rw [List.length_map, length_plainValues hfills.enough]
  unfold bound fallbacks
  rw [List.flatMap_append, arguments_zip_one hlength, List.flatMap_map]
  unfold plainValues
  by_cases hle : arguments.length ≤ r.positional.length
  · -- All arguments are taken by plain parameters.
    rw [List.take_of_length_le hle, List.drop_of_length_le hle, if_pos hle, List.append_assoc]
    congr 2
    cases r.variadic? with
    | none => rfl
    | some p =>
        simp only [Option.toList_some, List.flatMap_cons, List.flatMap_nil, List.append_nil,
          List.filterMap_cons, List.filterMap_nil, arguments_variadicValue_nil]
        cases p.default <;> rfl
  · -- The arguments that are left have a variadic parameter that takes them.
    have hrest : (arguments.drop r.positional.length).isEmpty = false := by
      rw [List.isEmpty_eq_false_iff]
      exact fun h => hle (List.drop_eq_nil_iff.mp h)
    cases hv : r.variadic? with
    | none => exact absurd (hfills.none_left hv) hle
    | some p =>
        rw [List.drop_of_length_le (by omega : r.positional.length ≤ arguments.length), if_neg hle]
        unfold variadicValue
        rw [hrest]
        simp [Bound.arguments]

/-- The shell is given the arguments, and then the defaults. -/
theorem positionalValues_bound (hord : OrderedParameters r.parameters)
    (hfills : r.Fills arguments) :
    r.positionalValues (r.bound arguments) = .ok (arguments ++ r.fallbacks arguments) := by
  have hnames := names_bound hord hfills
  unfold positionalValues
  rw [positionalValues_go (hnames ▸ hord.distinct) (fun _ h => h) hnames, arguments_bound hfills]

end Recipe

/-! ## The processes of an execution -/

/-- The words of the process that is to be started. -/
def Event.words? : Event → Option (List Text)
  | started words _ _ => some words
  | _ => none

namespace Job

variable {job : Job} {s : Schedule} {i : Nat} {text : Text}

theorem words_opening (announced : List Signal) :
    (job.opening announced i text).filterMap Event.words? = [] := by
  rw [filterMap_opening fun _ => ⟨rfl, rfl⟩]
  show (if job.announce then [] else []) ++ (if job.echo || job.dryRun then [] else []) = []
  rw [ite_self, ite_self]
  rfl

/-- A turn is one attempt to start a process, if the process has words. -/
theorem words_turn : (job.turn s i text).filterMap Event.words? =
    (argv text job.shell job.recipe job.positional).toList := by
  rw [filterMap_turn (fun _ => ⟨rfl, rfl⟩) fun _ => rfl, words_opening]
  cases argv text job.shell job.recipe job.positional with
  | none => rfl
  | some words => rfl

/-- **Every turn tries to start one process**, and these have the words of the lines. -/
theorem words_turns (n : Nat) (ls : List Text) : (job.turns s n ls).filterMap Event.words? =
    ls.filterMap fun text => argv text job.shell job.recipe job.positional := by
  induction ls generalizing n with
  | nil => rfl
  | cons text more ih =>
      rw [turns_cons, List.filterMap_append, words_turn, ih, List.filterMap_cons]
      cases argv text job.shell job.recipe job.positional with
      | none => rfl
      | some words => rfl

end Job

/-! ## The processes of an invocation -/

/-- The words of the process that a step starts or tries to start. -/
def Step.words? : Step → Option (List Text)
  | did event => event.words?
  | _ => none

theorem Step.words?_eq (step : Step) : step.words? = step.event?.bind Event.words? := by
  cases step with
  | did event => rfl
  | moved => rfl
  | failed => rfl

namespace Dispatcher

theorem words_steps {steps : List Step} {events : List Event}
    (h : steps.filterMap Step.event? = events.filter fun e => e.line?.isNone) :
    steps.filterMap Step.words? = events.filterMap Event.words? := by
  rw [← filterMap_steps (fun line text => rfl) h]
  exact List.filterMap_congr fun step _ => step.words?_eq

variable {d : Dispatcher} {r : Recipe} {arguments : List Text} {b : Bindings}

/-- For a recipe file that can be printed, the shell is the file's, if it sets one. -/
theorem shell_eq_getD (h : d.registry.settings.Printable) :
    d.shell = d.registry.settings.shell.getD
      (if d.fallbackShell = [] then ["sh".toList, "-cu".toList] else d.fallbackShell) := by
  have hfallback : (if d.fallbackShell.isEmpty then defaultShell else d.fallbackShell) =
      if d.fallbackShell = [] then ["sh".toList, "-cu".toList] else d.fallbackShell := by
    cases d.fallbackShell <;> rfl
  unfold shell
  cases hshell : d.registry.settings.shell with
  | none => exact hfallback
  | some words =>
      obtain ⟨command, rest, rfl, _⟩ := h.command words hshell
      rfl

/-- The values that the processes of a recipe are given, if the recipe file asks for them. -/
def shellArguments (d : Dispatcher) (r : Recipe) (arguments : List Text) : Option (List Text) :=
  if d.registry.settings.positionalArguments then some (arguments ++ r.fallbacks arguments)
  else none

theorem positional_of_bind (hord : OrderedParameters r.parameters)
    (hbind : r.bind arguments = .ok b) : d.positional r b = .ok (d.shellArguments r arguments) := by
  obtain ⟨hfills, rfl⟩ := (Recipe.bind_eq_ok_iff_fills hord).mp hbind
  unfold positional shellArguments
  rw [Recipe.positionalValues_bound hord hfills]
  split
  · rfl
  · rfl

/-- The words of a line's process: the shell and the line, and with positional arguments the name of
the recipe and the arguments with the defaults behind them. -/
theorem argv_shellArguments (hname : r.name ≠ []) (text : Text) :
    argv text d.shell r.name (d.shellArguments r arguments) = some (d.shell ++ text ::
      if d.registry.settings.positionalArguments then
        r.name :: (arguments ++ r.fallbacks arguments)
      else []) := by
  unfold shellArguments argv
  cases d.registry.settings.positionalArguments with
  | false => rfl
  | true =>
      have hempty : r.name.isEmpty = false := List.isEmpty_eq_false_iff.mpr hname
      rw [if_pos rfl, if_pos rfl]
      show (if r.name.isEmpty then _ else _) = _
      rw [hempty]
      rfl

/-- **Arguments reach the shell as they were given.** Every recipe of a loaded registry is found under
its name. However it is found, when arguments bind, an invocation that is not dry starts or tries to
start one process for each of its turns: the `i`-th has the words of the shell and the `i`-th rendered
line, and with positional arguments those of the recipe's name, the arguments, and the defaults. This is
so also where the last of these processes is refused and the invocation has no result. -/
theorem invoke_words {source : Option Path} {t : Text}
    (hload : Registry.ofText source t = .ok d.registry) (hdry : d.dryRun = false)
    (hr : r ∈ d.registry.recipes) (hbind : r.bind arguments = .ok b) (schedule : Schedule) :
    d.resolve (some r.name) = .ok r ∧
    ∃ lines k, r.render b = .ok lines ∧
      (d.job r lines (d.shellArguments r arguments)).LastTurn schedule lines.length k ∧
      ∀ name, d.resolve name = .ok r →
        ((d.invoke name arguments schedule).steps.filterMap Step.words? =
          (lines.take k).map fun line =>
            d.registry.settings.shell.getD
              (if d.fallbackShell = [] then ["sh".toList, "-cu".toList] else d.fallbackShell) ++
            line :: if d.registry.settings.positionalArguments then
              r.name :: (arguments ++ r.fallbacks arguments)
            else []) ∧
        ((¬ ∃ refusal, d.Refuses schedule name arguments refusal) →
          ∃ steps result, d.invoke name arguments schedule = .ok (steps, result)) := by
  obtain ⟨loaded, hlines, hregistry⟩ := Registry.ofText_eq_ok_iff.mp hload
  have hwell := Progress.wellFormed_of_ofLines Text.isLine_of_mem_lines hlines
  have hsettings : d.registry.settings.Printable := by
    rw [hregistry]
    exact hwell.settings
  have hprintable : r.Printable := by
    rw [hregistry] at hr
    exact hwell.recipes r hr
  have hdistinct : (d.registry.recipes.map (·.name)).Nodup := by
    rw [hregistry]
    exact (List.nodup_append.mp hwell.distinct).1
  have hname : r.name ≠ [] := by
    intro h
    have hnamed := hprintable.named
    rw [h] at hnamed
    cases hnamed
  obtain ⟨_, lines, hrender⟩ := (Registry.checked_of_ofText hload hr).exists_render hbind
  obtain ⟨k, hlast, hevents⟩ := Job.exists_lastTurn
    (show (d.job r lines (d.shellArguments r arguments)).dryRun = false from hdry) schedule
  refine ⟨?_, lines, k, hrender, hlast, fun name hresolve => ?_⟩
  · rw [resolve, Registry.find?_eq_some_of_distinct hdistinct hr]
  · obtain ⟨hsteps, hends⟩ := invoke_executes (s := schedule) hresolve hbind hrender
      (positional_of_bind hprintable.ordered hbind)
    refine ⟨?_, hends.exists_result⟩
    rw [words_steps hsteps, hevents, Job.words_turns, ← shell_eq_getD hsettings, ← List.filterMap_eq_map]
    exact List.filterMap_congr fun line _ => argv_shellArguments hname line

/-- The theorem at a recipe with parameters of all three kinds, the last two of which have their
defaults, and an argument with a space in it. The first line's process fails. -/
theorem invoke_words_defaults :
    let t := "set positional-arguments\nr a b=\"x\" *v='y z':\n  run {{a}}\n  more\n".toList
    let r : Recipe := {
      name := ['r']
      parameters := [⟨['a'], none, false⟩, ⟨['b'], some ['x'], false⟩,
        ⟨['v'], some "y z".toList, true⟩]
      body := ["run {{a}}".toList, "more".toList]
      line := 2 }
    let d : Dispatcher := {
      registry := { recipes := [r], settings := { positionalArguments := true } }
      fallbackShell := ["bash".toList, "-c".toList] }
    let b : Bindings := [(['a'], .one "1 2".toList), (['b'], .one ['x']),
      (['v'], .many ["y z".toList])]
    let schedule : Schedule := { children := [{ fate := .ends 3 [] [] }] }
    (Registry.ofText none t = .ok d.registry ∧ d.dryRun = false ∧ r ∈ d.registry.recipes ∧
      r.bind ["1 2".toList] = .ok b ∧
      (d.invoke none ["1 2".toList] schedule).steps.filterMap Step.words? =
        [["bash".toList, "-c".toList, "run 1 2".toList, ['r'], "1 2".toList, ['x'],
          "y z".toList]]) ∧
    d.resolve (some r.name) = .ok r ∧
    ∃ lines k, r.render b = .ok lines ∧
      (d.job r lines (d.shellArguments r ["1 2".toList])).LastTurn schedule lines.length k ∧
      ∀ name, d.resolve name = .ok r →
        ((d.invoke name ["1 2".toList] schedule).steps.filterMap Step.words? =
          (lines.take k).map fun line =>
            d.registry.settings.shell.getD
              (if d.fallbackShell = [] then ["sh".toList, "-cu".toList] else d.fallbackShell) ++
            line :: if d.registry.settings.positionalArguments then
              r.name :: (["1 2".toList] ++ r.fallbacks ["1 2".toList])
            else []) ∧
        ((¬ ∃ refusal, d.Refuses schedule name ["1 2".toList] refusal) →
          ∃ steps result, d.invoke name ["1 2".toList] schedule = .ok (steps, result)) := by
  intro t r d b schedule
  have hload : Registry.ofText none t = .ok d.registry := by decide +kernel
  have hbind : r.bind ["1 2".toList] = .ok b := by decide +kernel
  have hwords : (d.invoke none ["1 2".toList] schedule).steps.filterMap Step.words? =
      [["bash".toList, "-c".toList, "run 1 2".toList, ['r'], "1 2".toList, ['x'],
        "y z".toList]] := by decide +kernel
  exact ⟨⟨hload, rfl, List.mem_singleton_self r, hbind, hwords⟩,
    invoke_words hload rfl (List.mem_singleton_self r) hbind schedule⟩

end Dispatcher

end Runbook
