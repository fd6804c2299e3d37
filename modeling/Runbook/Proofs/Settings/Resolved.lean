import Runbook.Proofs.Settings.Keys

set_option autoImplicit false

/-! # Settings that are resolved already

Each check accepts what it has passed, and leaves it as it is: the words of a shell are not cut again,
the name of a level is in upper case, and a recipe file is a text. So settings that are resolved once
more do not change, and neither do they where only some of them take the place of the values that they
were resolved from.
-/

namespace Runbook

variable {s : Settings} {key : SettingKey} {v : Option Value}

/-! ## Checks -/

theorem Settings.given?_toLayer (s : Settings) (key : SettingKey) :
    Layer.given? (some ((s.toLayer.get key).getD .null)) = s.toLayer.get key := by
  cases key with
  | recipeFile =>
      show Layer.given? (some ((s.recipeFile.map Value.text).getD .null)) = s.recipeFile.map .text
      cases s.recipeFile <;> rfl
  | _ => rfl

/-- **A check leaves what it has passed as it is.** -/
theorem Settings.Checks.again (h : s.Checks v key) :
    s.Checks (s.toLayer.get key <|> Layer.defaults.get key) key := by
  cases key with
  | recipeFile =>
      show ((s.recipeFile.map Value.text <|> none : Option Value)).mapM checkRecipeFile = _
      cases s.recipeFile <;> rfl
  | shell =>
      -- a shell that was accepted is not empty, and a list is not cut into words
      have hne : s.shell ≠ [] := ne_nil_of_checkShell h
      exact checkWords_of_isWords hne
  | echo => rfl
  | logLevel =>
      show checkLogLevel (.ofText s.logLevel.name.toList) = _
      cases s.logLevel <;> rfl

namespace Layer

variable {given given' : Layer}

/-- Settings stay what they are where they are given themselves, or what they were resolved from. -/
theorem resolve_of_get (h : given.resolve = .ok s)
    (hsame : ∀ key, given'.get key = s.toLayer.get key ∨ given'.get key = given.get key) :
    given'.resolve = .ok s := by
  rw [resolve_eq_ok_iff] at h ⊢
  intro key
  have hkey := h key
  rw [get_above] at hkey ⊢
  rcases hsame key with heq | heq
  · rw [heq]
    exact hkey.again
  · rw [heq]
    exact hkey

end Layer

/-! ## Tables of settings -/

/-- Some of the settings as a table. A recipe file that is not set is nothing. -/
def Settings.entries (s : Settings) (keys : List SettingKey) : List (Value × Value) :=
  keys.map fun key => (.ofText key.name, (s.toLayer.get key).getD .null)

/-- The entries of a table that are none of these settings. -/
def entriesBut (keys : List SettingKey) (entries : List (Value × Value)) : List (Value × Value) :=
  entries.filter fun e => !keys.any fun key => e.1.names key

theorem entries_cons (s : Settings) (first : SettingKey) (keys : List SettingKey) :
    s.entries (first :: keys) =
      (.ofText first.name, (s.toLayer.get first).getD .null) :: s.entries keys := rfl

theorem find?_entries_of_mem (s : Settings) {keys : List SettingKey} (h : key ∈ keys) :
    Value.find? (s.entries keys) key.name = some ((s.toLayer.get key).getD .null) := by
  induction keys with
  | nil => cases h
  | cons first keys ih =>
      rw [entries_cons, Value.find?_cons]
      by_cases hfirst : first = key
      · rw [if_pos ((Value.names_ofText_name first key).mpr hfirst), hfirst]
      · rw [if_neg (mt (Value.names_ofText_name first key).mp hfirst)]
        exact ih ((List.mem_cons.mp h).resolve_left fun heq => hfirst heq.symm)

theorem find?_entries_of_notMem (s : Settings) {keys : List SettingKey} (h : key ∉ keys) :
    Value.find? (s.entries keys) key.name = none := by
  induction keys with
  | nil => rfl
  | cons first keys ih =>
      rw [List.mem_cons, not_or] at h
      obtain ⟨hfirst, hrest⟩ := h
      have hother : ¬ (Value.ofText first.name).names key = true :=
        mt (Value.names_ofText_name first key).mp (Ne.symm hfirst)
      rw [entries_cons, Value.find?_cons, if_neg hother]
      exact ih hrest

theorem find?_entriesBut {keys : List SettingKey} (h : key ∉ keys)
    (entries : List (Value × Value)) :
    Value.find? (entriesBut keys entries) key.name = Value.find? entries key.name := by
  refine Value.find?_filter fun e _ hnames => ?_
  rw [Bool.not_eq_true', List.any_eq_false]
  intro other hother hboth
  rw [Value.eq_of_names hboth hnames] at hother
  exact h hother

/-- **Settings that are resolved stay what they are when they are resolved again**, all of them, or any
of them together with what was given to the others. -/
theorem resolve_entries_fixed {overrides : List (Value × Value)}
    (h : (Layer.ofEntries overrides).resolve = .ok s) :
    (Layer.ofEntries (s.entries SettingKey.all)).resolve = .ok s ∧
    ∀ keys, (Layer.ofEntries (s.entries keys ++ entriesBut keys overrides)).resolve = .ok s := by
  refine ⟨Layer.resolve_of_get h fun key => Or.inl ?_, fun keys => ?_⟩
  · rw [Layer.get_ofEntries, find?_entries_of_mem s key.mem_all, s.given?_toLayer]
  · refine Layer.resolve_of_get h fun key => ?_
    rw [Layer.get_ofEntries, Value.find?_append]
    by_cases hkey : key ∈ keys
    · left
      rw [find?_entries_of_mem s hkey]
      exact s.given?_toLayer key
    · right
      rw [find?_entries_of_notMem s hkey, find?_entriesBut hkey, Layer.get_ofEntries]
      rfl

/-- The theorem at a shell that is cut into words, the last of which is not to be cut again, and at a
level with a letter that is not in ASCII. -/
theorem resolve_entries_fixed_words :
    let overrides := [(Value.ofText "shell".toList, Value.ofText "sh -c 'a \"b'".toList),
      (Value.ofText "log_level".toList, Value.ofText "ınfo".toList),
      (Value.ofText "recipe_file".toList, Value.list [.bool true]),
      (Value.ofText "colour".toList, Value.int 1)]
    let s : Settings := {
      recipeFile := some (.ofText "[True]".toList)
      shell := ["sh".toList, "-c".toList, "a \"b".toList].map Wide.ofText
      echo := true
      logLevel := .info }
    (Layer.ofEntries overrides).resolve = .ok s ∧
    (Layer.ofEntries (s.entries SettingKey.all)).resolve = .ok s ∧
    (Layer.ofEntries (s.entries [.shell, .recipeFile] ++
      entriesBut [.shell, .recipeFile] overrides)).resolve = .ok s := by
  intro overrides s
  have h : (Layer.ofEntries overrides).resolve = .ok s := rfl
  exact ⟨h, (resolve_entries_fixed h).1, (resolve_entries_fixed h).2 [.shell, .recipeFile]⟩

end Runbook
