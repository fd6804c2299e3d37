import Runbook.CommandLine.Run
import Runbook.Document.Tree
import Runbook.Proofs.Invocation.Outcome

set_option autoImplicit false

/-! # What a run reports and starts

A run goes from stage to stage: options, settings, the recipe file, its recipes, and the invocation of
one of them. A stage that fails ends the run with a report and a status other than zero, or breaks it
off; a stage that does not fail reports nothing and starts nothing, but for the last. So the reports of a
run tell its status, and a process is started only when all stages before have found what they need.
What the last stage does is known from invocations; the stages before it are put in front of it one by
one. How the settings file is read has no part in this: all is said for any reader of documents.
-/

namespace Runbook

/-! ## What is shown -/

/-- The message of a report. -/
def Shown.report? : Shown → Option String
  | report message => some message
  | _ => none

/-- The messages that are reported. Lines of the log, of the usage and of recipes are none, whatever
they say. -/
def reports (shown : List Shown) : List String := shown.filterMap Shown.report?

/-- Whether an attempt is made to start a process. -/
def Starts (shown : List Shown) : Prop := ∃ event, Shown.act event ∈ shown ∧ event.isStart = true

/-- Whether nothing is reported and nothing is started. -/
def Calm (shown : List Shown) : Prop := reports shown = [] ∧ ¬ Starts shown

variable {shown before after : List Shown}

theorem reports_append (before after : List Shown) :
    reports (before ++ after) = reports before ++ reports after := List.filterMap_append

theorem starts_append_iff : Starts (before ++ after) ↔ Starts before ∨ Starts after := by
  unfold Starts
  simp only [List.mem_append, or_and_right, exists_or]

theorem Calm.reports_append (h : Calm before) : reports (before ++ after) = reports after := by
  rw [Runbook.reports_append, h.1, List.nil_append]

theorem Calm.starts_append_iff (h : Calm before) : Starts (before ++ after) ↔ Starts after := by
  rw [Runbook.starts_append_iff]
  exact or_iff_right h.2

theorem Calm.append (hbefore : Calm before) (hafter : Calm after) : Calm (before ++ after) :=
  ⟨by rw [hbefore.reports_append, hafter.1], by rw [hbefore.starts_append_iff]; exact hafter.2⟩

/-- What is said of a stage and those behind it: the reports tell the status, which is zero exactly if
there is none and comes with a single one otherwise, and a process is started exactly under a
condition. -/
structure Outcome (done : List Shown × Ending) (condition : Prop) : Prop where
  told : ∀ status, done.2 = .ok status →
    (status = 0 ↔ reports done.1 = []) ∧ (status ≠ 0 → ∃ message, reports done.1 = [message])
  starts_iff : Starts done.1 ↔ condition

namespace Outcome

variable {done : List Shown × Ending} {condition : Prop}

theorem congr {other : Prop} (h : Outcome done condition) (hiff : condition ↔ other) :
    Outcome done other :=
  ⟨h.told, h.starts_iff.trans hiff⟩

end Outcome

theorem SettingsFault.code_ne_zero {fault : SettingsFault} {code : Nat}
    (h : fault.exitCode? = some code) : code ≠ 0 := by
  unfold exitCode? at h
  split at h
  all_goals cases h
  decide

theorem DiscoveryFault.code_ne_zero {fault : DiscoveryFault} {code : Nat}
    (h : fault.exitCode? = some code) : code ≠ 0 := by
  unfold exitCode? at h
  split at h
  all_goals cases h
  decide

theorem RegistryFault.code_ne_zero {fault : RegistryFault} {code : Nat}
    (h : fault.exitCode? = some code) : code ≠ 0 := by
  unfold exitCode? at h
  split at h
  all_goals cases h
  all_goals decide

variable {reader : DocumentReader} {w : World} {r : Request} {settings : Settings} {registry : Registry}

/-- What runs the recipes for a request. -/
def Request.dispatcher (r : Request) (settings : Settings) (registry : Registry) : Dispatcher where
  registry := registry
  fallbackShell := settings.shell.map Wide.readable
  echo := settings.echo
  dryRun := r.dryRun

/-- What a run has found when it starts a process: the options are read and none of them keeps it from
running, the settings are right, the recipe file is found and read, it has the recipe, and the other
words bind to it. -/
structure Ready (reader : DocumentReader) (w : World) (words : List Text) where
  request : Request
  settings : Settings
  file : Path
  registry : Registry
  recipe : Recipe
  bindings : Bindings
  options : readRequest w words = .ok request
  not_help : request.help = false
  not_list : request.list = false
  not_dryRun : request.dryRun = false
  resolved : (loadSettings reader w.tree w.cwd w.cwd request.config w.environment request.layer).2 =
    .ok settings
  found : resolveRecipeFile w.tree w.cwd w.home w.cwd (settings.recipeFile.map Wide.readable)
    recipeFileNames = .ok file
  loaded : Registry.loadFile w.tree w.cwd file = .ok registry
  named : registry.named? request.words.head? = some recipe
  bound : recipe.bind (request.words.drop 1) = .ok bindings

end Runbook
