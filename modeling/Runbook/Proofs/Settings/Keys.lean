import Runbook.Proofs.Settings.Checks

set_option autoImplicit false

/-! # The settings one by one

There are four settings, each with a name in tables, a variable of the environment, and a check of
its own. A layer is what it gives to each of them, and a layer is resolved to settings exactly if each
check passes with the value of its setting. So what a setting is depends on nothing but the value that
counts for it.
-/

namespace Runbook

/-! ## Keys -/

/-- A setting. -/
inductive SettingKey where
  | recipeFile
  | shell
  | echo
  | logLevel
  deriving DecidableEq, Repr

namespace SettingKey

/-- The settings. -/
def all : List SettingKey := [recipeFile, shell, echo, logLevel]

/-- The name of a setting in a table. -/
def name : SettingKey → Text
  | recipeFile => "recipe_file".toList
  | shell => "shell".toList
  | echo => "echo".toList
  | logLevel => "log_level".toList

/-- The environment variable of a setting. -/
def variableName : SettingKey → String
  | recipeFile => "RUNNER_FILE"
  | shell => "RUNNER_SHELL"
  | echo => "RUNNER_ECHO"
  | logLevel => "RUNNER_LOG_LEVEL"

theorem mem_all (key : SettingKey) : key ∈ all := by
  cases key <;> decide

theorem eq_of_name_eq {key other : SettingKey} (h : key.name = other.name) : key = other := by
  revert h
  cases key <;> cases other <;> decide

end SettingKey

/-- Whether a key of a table is the name of a setting. -/
def Value.names (k : Value) (key : SettingKey) : Bool :=
  match k with
  | .text t => t.text? == some key.name
  | _ => false

namespace Value

variable {entries more : List (Value × Value)} {key : SettingKey}

theorem names_ofText_name (key other : SettingKey) :
    (Value.ofText key.name).names other = true ↔ key = other := by
  rw [Value.ofText, names, Wide.text?_ofText, beq_iff_eq, Option.some.injEq]
  exact ⟨SettingKey.eq_of_name_eq, congrArg SettingKey.name⟩

/-- A key is the name of one setting at most. -/
theorem eq_of_names {k : Value} {key other : SettingKey} (h : k.names key = true)
    (hother : k.names other = true) : key = other := by
  cases k with
  | text t =>
      have hkey : t.text? = some key.name := beq_iff_eq.mp h
      have hname : t.text? = some other.name := beq_iff_eq.mp hother
      exact SettingKey.eq_of_name_eq (Option.some.inj (hkey.symm.trans hname))
  | _ => cases h

theorem find?_cons (k v : Value) (rest : List (Value × Value)) :
    find? ((k, v) :: rest) key.name = if k.names key then some v else find? rest key.name := by
  cases k with
  | text t => rfl
  | _ => rfl

/-- A value is looked for in the first table, and then in the second. -/
theorem find?_append :
    find? (entries ++ more) key.name = (find? entries key.name <|> find? more key.name) := by
  induction entries with
  | nil => rfl
  | cons e entries ih =>
      obtain ⟨k, v⟩ := e
      rw [List.cons_append, find?_cons, find?_cons, ih]
      split
      · rfl
      · rfl

/-- Entries with other keys do not matter to a setting. -/
theorem find?_filter {p : Value × Value → Bool}
    (h : ∀ e ∈ entries, e.1.names key = true → p e = true) :
    find? (entries.filter p) key.name = find? entries key.name := by
  induction entries with
  | nil => rfl
  | cons e entries ih =>
      obtain ⟨k, v⟩ := e
      have hrest := ih fun e he => h e (List.mem_cons_of_mem _ he)
      rw [List.filter_cons, find?_cons]
      split
      · rw [find?_cons, hrest]
      · next hno =>
          have hk : k.names key ≠ true := fun hk => hno (h (k, v) List.mem_cons_self hk)
          rw [if_neg hk, hrest]

end Value

/-! ## Layers -/

namespace Layer

variable {given upper lower : Layer} {s : Settings} {key : SettingKey}

/-- What a layer gives to a setting. -/
def get (given : Layer) : SettingKey → Option Value
  | .recipeFile => given.recipeFile
  | .shell => given.shell
  | .echo => given.echo
  | .logLevel => given.logLevel

/-- The layer that gives these values to the settings. -/
def ofValues (values : SettingKey → Option Value) : Layer where
  recipeFile := values .recipeFile
  shell := values .shell
  echo := values .echo
  logLevel := values .logLevel

@[simp] theorem get_ofValues (values : SettingKey → Option Value) (key : SettingKey) :
    (ofValues values).get key = values key := by
  cases key <;> rfl

@[simp] theorem ofValues_get (given : Layer) : ofValues given.get = given := rfl

theorem eq_of_get (h : ∀ key, upper.get key = lower.get key) : upper = lower := by
  rw [← ofValues_get upper, ← ofValues_get lower, funext h]

@[simp] theorem get_above (upper lower : Layer) (key : SettingKey) :
    (upper.above lower).get key = (upper.get key <|> lower.get key) := by
  cases key <;> rfl

theorem get_ofEntries (entries : List (Value × Value)) (key : SettingKey) :
    (ofEntries entries).get key = given? (Value.find? entries key.name) := by
  cases key <;> rfl

theorem get_ofEnvironment (environment : List (Text × Text)) (key : SettingKey) :
    (ofEnvironment environment).get key = fromVariable environment key.variableName := by
  cases key <;> rfl

end Layer

/-! ## Checks -/

/-- Whether the check of a setting passes, with the value that the settings have for it. -/
def Settings.Checks (s : Settings) (v : Option Value) : SettingKey → Prop
  | .recipeFile => v.mapM checkRecipeFile = .ok s.recipeFile
  | .shell => checkShell (v.getD .null) = .ok s.shell
  | .echo => checkEcho (v.getD .null) = .ok s.echo
  | .logLevel => checkLogLevel (v.getD .null) = .ok s.logLevel

namespace Layer

variable {given : Layer} {s : Settings}

/-- **A layer is resolved to settings exactly if each check passes with the value of its setting.** -/
theorem resolve_eq_ok_iff :
    given.resolve = .ok s ↔ ∀ key, s.Checks ((given.above defaults).get key) key := by
  constructor
  · intro h
    obtain ⟨recipeFile, hfile, h⟩ := bind_eq_ok_iff.mp h
    obtain ⟨shell, hshell, h⟩ := bind_eq_ok_iff.mp h
    obtain ⟨echo, hecho, h⟩ := bind_eq_ok_iff.mp h
    obtain ⟨logLevel, hlevel, h⟩ := bind_eq_ok_iff.mp h
    cases h
    intro key
    cases key with
    | recipeFile => exact hfile
    | shell => exact hshell
    | echo => exact hecho
    | logLevel => exact hlevel
  · intro h
    exact bind_eq_ok_iff.mpr ⟨_, h .recipeFile, bind_eq_ok_iff.mpr ⟨_, h .shell,
      bind_eq_ok_iff.mpr ⟨_, h .echo, bind_eq_ok_iff.mpr ⟨_, h .logLevel, rfl⟩⟩⟩⟩

end Layer

end Runbook
