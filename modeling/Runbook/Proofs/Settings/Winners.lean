import Runbook.Proofs.Settings.Keys
import Runbook.Proofs.Settings.Table

set_option autoImplicit false

/-! # Which value of a setting counts

Settings may be given by the command line, by the environment and by a settings file, and have defaults.
For each setting apart, the value that counts is the first that is given, in this order; nothing is no
value, and neither is an empty variable. The settings that are loaded are those that the four values
that count are resolved to. So no other value has any influence, be it right or wrong, and neither has
a key that is no setting. This is so for any reader of documents: what the settings file gives is what
the reader makes of it.
-/

namespace Runbook

/-! ## Sources -/

/-- What settings are loaded from. -/
structure Sources where
  /-- What makes values of documents. -/
  reader : DocumentReader
  tree : FileTree
  cwd : Path
  project : Path
  /-- The settings file, if one is named. -/
  config : Option Path := none
  environment : List (Text × Text) := []
  commandLine : List (Value × Value) := []

namespace Sources

variable {s s' : Sources} {entries entries' : List (Value × Value)} {key : SettingKey}

/-- The settings that are loaded. -/
def load (s : Sources) : Except SettingsFault Settings :=
  (loadSettings s.reader s.tree s.cwd s.project s.config s.environment (.ofEntries s.commandLine)).2

/-- The settings file. -/
def file (s : Sources) : Path := s.config.getD (s.project.child settingsFileName)

/-- What the settings file gives: the table that it holds, or no entries if it holds nothing. A file
that is not named may be absent, and then gives no entries either. -/
inductive HasTable (s : Sources) : List (Value × Value) → Prop
  | table {bytes : List UInt8} {entries : List (Value × Value)}
      (hshort : s.tree.isOverlong s.cwd s.file = false)
      (hbytes : s.tree.file? s.cwd s.file = some bytes)
      (hvalue : HoldsValue s.reader bytes (.table entries)) (hkeys : HasTextKeys entries) : HasTable s entries
  | nothing {bytes : List UInt8} (hshort : s.tree.isOverlong s.cwd s.file = false)
      (hbytes : s.tree.file? s.cwd s.file = some bytes) (hvalue : HoldsValue s.reader bytes .null) :
      HasTable s []
  | absent (hshort : s.tree.isOverlong s.cwd s.file = false)
      (hnone : s.tree.file? s.cwd s.file = none) (hconfig : s.config = none) : HasTable s []

/-- What is given to a setting: by the command line, the environment, the settings file, and by
default. -/
def offers (s : Sources) (entries : List (Value × Value)) (key : SettingKey) :
    List (Option Value) :=
  [Layer.given? (Value.find? s.commandLine key.name),
    Layer.fromVariable s.environment key.variableName,
    Layer.given? (Value.find? entries key.name),
    Layer.defaults.get key]

/-- The value of a setting that counts: the first that is given. -/
def winner (s : Sources) (entries : List (Value × Value)) (key : SettingKey) : Option Value :=
  (s.offers entries key).findSome? id

/-! ## Loading -/

theorem above_ofEntries_nil (upper : Layer) : upper.above (.ofEntries []) = upper := by
  refine Layer.eq_of_get fun key => ?_
  have hnone : (Layer.ofEntries []).get key = none := by cases key <;> rfl
  rw [Layer.get_above, hnone]
  cases upper.get key <;> rfl

/-- The layers that are put upon each other. -/
theorem load_eq (h : s.HasTable entries) :
    s.load = (((Layer.ofEntries s.commandLine).above (.ofEnvironment s.environment)).above
      (.ofEntries entries)).resolve := by
  unfold load loadSettings
  rw [← file]
  dsimp only
  cases h with
  | table hshort hbytes hvalue hkeys =>
      obtain ⟨warning, htable, _⟩ : ∃ warning,
          tableOf s.file (.table entries) = .ok (entries, warning) ∧ _ := tableOf_of_hasTextKeys hkeys
      rw [hshort, if_neg Bool.false_ne_true, hbytes]
      dsimp only
      rw [readSettingsFile_of_holdsValue hvalue, htable]
  | nothing hshort hbytes hvalue =>
      rw [hshort, if_neg Bool.false_ne_true, hbytes]
      dsimp only
      rw [readSettingsFile_of_holdsValue hvalue]
      rfl
  | absent hshort hnone hconfig =>
      rw [hshort, if_neg Bool.false_ne_true, hnone, hconfig, above_ofEntries_nil]

/-- Layers that agree upon the defaults are resolved alike. -/
theorem resolve_congr {given given' : Layer}
    (h : given.above .defaults = given'.above .defaults) : given.resolve = given'.resolve := by
  unfold Layer.resolve
  rw [h]

theorem load_eq_resolve (h : s.HasTable entries) :
    s.load = (Layer.ofValues (s.winner entries)).resolve := by
  rw [load_eq h]
  refine resolve_congr (Layer.eq_of_get fun key => ?_)
  simp only [Layer.get_above, Layer.get_ofEntries, Layer.get_ofEnvironment, Layer.get_ofValues, winner,
    offers]
  -- the first of the four that is given, either way
  cases Layer.given? (Value.find? s.commandLine key.name) with
  | some v => rfl
  | none =>
      cases Layer.fromVariable s.environment key.variableName with
      | some v => rfl
      | none =>
          cases Layer.given? (Value.find? entries key.name) with
          | some v => rfl
          | none => cases Layer.defaults.get key <;> rfl

/-! ## What has no influence -/

/-- The entries of a table whose keys are settings. -/
def knownEntries (entries : List (Value × Value)) : List (Value × Value) :=
  entries.filter fun e => SettingKey.all.any fun key => e.1.names key

theorem find?_knownEntries (entries : List (Value × Value)) (key : SettingKey) :
    Value.find? (knownEntries entries) key.name = Value.find? entries key.name :=
  Value.find?_filter fun _ _ hnames => List.any_eq_true.mpr ⟨key, key.mem_all, hnames⟩

theorem winner_congr (hfile : knownEntries entries' = knownEntries entries)
    (hline : knownEntries s'.commandLine = knownEntries s.commandLine)
    (henvironment : s'.environment = s.environment) : s'.winner entries' = s.winner entries := by
  funext key
  unfold winner offers
  rw [← find?_knownEntries s'.commandLine, ← find?_knownEntries entries', hfile, hline, henvironment,
    find?_knownEntries, find?_knownEntries]

/-- A setting is what the value that counts for it is checked to be. -/
theorem get_eq_of_checks {r r' : Settings} {v : Option Value} (h : r.Checks v key)
    (h' : r'.Checks v key) : r'.toLayer.get key = r.toLayer.get key := by
  cases key with
  | recipeFile =>
      have heq : r'.recipeFile = r.recipeFile := Except.ok.inj (h'.symm.trans h)
      exact congrArg (Option.map Value.text) heq
  | shell =>
      have heq : r'.shell = r.shell := Except.ok.inj (h'.symm.trans h)
      exact congrArg (fun ws => some (Value.list (ws.map .text))) heq
  | echo =>
      have heq : r'.echo = r.echo := Except.ok.inj (h'.symm.trans h)
      exact congrArg (fun b => some (Value.bool b)) heq
  | logLevel =>
      have heq : r'.logLevel = r.logLevel := Except.ok.inj (h'.symm.trans h)
      exact congrArg (fun l => some (Value.ofText l.name.toList)) heq

/-- **Only the values that count have an influence.** The settings that are loaded, or the fault, are
those of the four values that count. Two ways of giving settings in which these values are the same
are therefore loaded alike, so are two that differ in nothing but keys that are no settings, and where
both are loaded, each setting for which the same value counts is the same. -/
theorem load_eq_resolve_winners (h : s.HasTable entries) :
    s.load = (Layer.ofValues (s.winner entries)).resolve ∧
    ∀ (s' : Sources) (entries' : List (Value × Value)), s'.HasTable entries' →
      ((∀ key, s'.winner entries' key = s.winner entries key) → s'.load = s.load) ∧
      (knownEntries entries' = knownEntries entries →
        knownEntries s'.commandLine = knownEntries s.commandLine →
        s'.environment = s.environment → s'.load = s.load) ∧
      ∀ r r', s.load = .ok r → s'.load = .ok r' → ∀ key,
        s'.winner entries' key = s.winner entries key → r'.toLayer.get key = r.toLayer.get key := by
  refine ⟨load_eq_resolve h, fun s' entries' h' => ?_⟩
  have halike : s'.winner entries' = s.winner entries → s'.load = s.load := by
    intro hwinners
    rw [load_eq_resolve h', load_eq_resolve h, hwinners]
  refine ⟨fun hwinners => halike (funext hwinners), fun hfile hline henvironment => ?_, ?_⟩
  · exact halike (winner_congr hfile hline henvironment)
  · intro r r' hr hr' key hkey
    rw [load_eq_resolve h] at hr
    rw [load_eq_resolve h'] at hr'
    have hchecks := Layer.resolve_eq_ok_iff.mp hr key
    have hchecks' := Layer.resolve_eq_ok_iff.mp hr' key
    rw [Layer.get_above, Layer.get_ofValues] at hchecks hchecks'
    rw [hkey] at hchecks'
    exact get_eq_of_checks hchecks hchecks'

/-- The theorem at a settings file with a wrong value that does not count, and a value that is nothing.
Without the file, the same settings are loaded if a variable gives the level of the log. -/
theorem load_eq_resolve_winners_losing :
    let lines := "echo: maybe\nlog_level: info\nshell: null\ncolour: 1\n".toList
    let entries := [(Value.ofText "echo".toList, Value.ofText "maybe".toList),
      (Value.ofText "log_level".toList, Value.ofText "info".toList),
      (Value.ofText "shell".toList, Value.null), (Value.ofText "colour".toList, Value.int 1)]
    let directory := (["w".toList], Entry.directory)
    let s : Sources := {
      reader := Document.read
      tree := ⟨[directory, (["w".toList, settingsFileName], .file (Utf8.encode lines) false)]⟩
      cwd := Path.ofText "/w".toList
      project := Path.ofText "/w".toList
      environment := [("RUNNER_ECHO".toList, "off".toList), ("RUNNER_SHELL".toList, [])]
      commandLine := [(.ofText "recipe_file".toList, .ofText ['a']), (.ofText "echo".toList, .null)] }
    let s' : Sources := { s with
      tree := ⟨[directory]⟩
      environment := ("RUNNER_LOG_LEVEL".toList, "info".toList) :: s.environment }
    (s.HasTable entries ∧ s'.HasTable []) ∧
    s.load = .ok {
      recipeFile := some (.ofText ['a'])
      shell := [.ofText "sh".toList, .ofText "-cu".toList]
      echo := false
      logLevel := .info } ∧
    s'.load = s.load := by
  intro lines entries directory s s'
  have hholds : HoldsValue Document.read (Utf8.encode lines) (.table entries) := by
    have htokens : Document.tokens lines =
        ([.openEntries, .key, .scalar true (.ofText "echo".toList), .value,
          .scalar true (.ofText "maybe".toList), .key, .scalar true (.ofText "log_level".toList),
          .value, .scalar true (.ofText "info".toList), .key,
          .scalar true (.ofText "shell".toList), .value, .scalar true (.ofText "null".toList), .key,
          .scalar true (.ofText "colour".toList), .value, .scalar true (.ofText ['1']), .close],
          none) := by decide +kernel
    refine ⟨lines, Utf8.decode_encode _, ?_⟩
    show Document.read lines = _
    unfold Document.read
    rw [htokens]
    rfl
  have hkeys : HasTextKeys entries := by
    intro e he
    simp only [entries, List.mem_cons, List.not_mem_nil, or_false] at he
    rcases he with rfl | rfl | rfl | rfl <;> exact ⟨_, rfl⟩
  have htable : s.HasTable entries := .table (by decide) rfl hholds hkeys
  have habsent : s'.HasTable [] := .absent (by decide) rfl rfl
  refine ⟨⟨htable, habsent⟩, (load_eq_resolve_winners htable).1, ?_⟩
  refine ((load_eq_resolve_winners htable).2 s' [] habsent).1 fun key => ?_
  cases key <;> rfl

end Sources

end Runbook
