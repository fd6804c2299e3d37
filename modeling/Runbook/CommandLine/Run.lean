import Runbook.CommandLine.Narration
import Runbook.CommandLine.Options
import Runbook.Discovery
import Runbook.Settings.File

set_option autoImplicit false

/-! # A run from the command line

The words of the command line are leading options, the name of a recipe and its arguments. A run
reads the options, the settings and the recipe file, and then lists the recipes or invokes one.
It shows what it does and ends with an exit status; a status other than zero comes with a line
that reports why. What a run sees of the world, and what the outside does while it runs, is given
as a value. How the settings file is read is left to a reader of documents.
-/

namespace Runbook

/-- What a run sees of the world. -/
structure World where
  tree : FileTree
  /-- The working directory, an absolute path. -/
  cwd : Path
  environment : List (Text × Text)

/-- The value of a variable; the empty text if it is not set. -/
def World.valueOf (w : World) (name : String) : Text :=
  ((w.environment.find? (·.1 == name.toList)).map (·.2)).getD []

/-- The home directory. -/
def World.home (w : World) : Text := w.valueOf "HOME"

/-- Why a word names no path. -/
inductive PathFault where
  /-- The home directory that the path is taken from is not known. -/
  | noHome
  /-- A file name holds the null character. -/
  | nullCharacter
  deriving DecidableEq, Repr

/-- The fault in words. -/
def PathFault.message : PathFault → String
  | .noHome => "Could not determine home directory."
  | .nullCharacter => "embedded null byte"

/-- The absolute path that a word names, without double dots. -/
def World.pathOf (w : World) (word : Text) : Except PathFault Path :=
  match (Path.ofText word).expandHome? w.home with
  | some p => if word.contains '\x00' then .error .nullCharacter else .ok (Path.resolve w.cwd p)
  | none =>
      if ((Path.ofText word).parts.headD []).contains '\x00' then .error .nullCharacter
      else .error .noHome

/-- What breaks a run off without an exit status. -/
inductive Crash where
  | discovery (fault : DiscoveryFault)
  | settings (fault : SettingsFault)
  | registry (fault : RegistryFault)
  | invocation (fault : Breakdown)

/-- What broke the run off, in words. -/
def Crash.message : Crash → String
  | .discovery fault => fault.message
  | .settings fault => fault.message
  | .registry fault => fault.message
  | .invocation fault => fault.message

/-! ## Options -/

/-- The options of a run. -/
structure Request where
  file : Option Path
  config : Option Path
  help : Bool
  list : Bool
  dryRun : Bool
  quiet : Bool
  verbose : Bool
  /-- The words behind the options. -/
  words : List Text

/-- The options that take a path. -/
def pathOptions (w : World) : List (ValueOption PathFault (Option Path)) :=
  let path := fun (key flag : String) =>
    (⟨key.toList, flag.toList, none, fun v => some <$> w.pathOf v⟩ : ValueOption PathFault _)
  [path "file" "--file", path "file" "-f", path "config" "--config"]

/-- The switches. -/
def switches : List Switch :=
  let switch := fun (key : String) (flags : List String) =>
    (⟨key.toList, flags.map (·.toList)⟩ : Switch)
  [switch "help" ["-h", "--help"], switch "list" ["-l", "--list"],
    switch "dry_run" ["-n", "--dry-run"], switch "quiet" ["-q", "--quiet"],
    switch "verbose" ["-v", "--verbose"]]

/-- The path that an option has set. -/
def pathAt (o : Options (Option Path)) (key : String) : Option Path :=
  match o.get? key.toList with
  | some (.value p) => p
  | _ => none

/-- Whether a switch is on. -/
def isOn (o : Options (Option Path)) (key : String) : Bool :=
  match o.get? key.toList with
  | some (.switch on) => on
  | _ => false

/-- The options of a run and the words behind them. -/
def readRequest (w : World) (words : List Text) : Except (OptionFault PathFault) Request := do
  let (o, rest) ← Options.read (pathOptions w) switches words
  .ok {
    file := pathAt o "file"
    config := pathAt o "config"
    help := isOn o "help"
    list := isOn o "list"
    dryRun := isOn o "dry_run"
    quiet := isOn o "quiet"
    verbose := isOn o "verbose"
    words := rest }

/-- How the options are used. -/
def usage : List String := [
  "Usage: runner [options] [<recipe> [args...]]",
  "Options (must precede the recipe name):",
  "  -f, --file PATH   Recipe file (default: Runfile/Justfile, searched upwards)",
  "  --config PATH     Settings file (default: ./.runner.yaml if present)",
  "  -l, --list        List recipes and exit",
  "  -n, --dry-run     Print command lines without running them",
  "  -q, --quiet       Do not echo command lines",
  "  -v, --verbose     Debug logging",
  "With no recipe name the first recipe in the file runs."]

/-- The usage as it is printed. -/
def usageShown : List Shown := usage.map fun line => .err line.toList

/-! ## Running -/

/-- How a run ends: with an exit status, or broken off. -/
abbrev Ending := Except Crash Int

/-- The values that the options give to the settings. -/
def Request.layer (r : Request) : Layer where
  recipeFile := r.file.map fun p => .ofText p.toText
  echo := if r.quiet then some (.bool false) else none
  logLevel := if r.verbose then some (.ofText "DEBUG".toList) else none

/-- The files that a run looks at, as far as the files that are known tell. -/
def World.consulted (w : World) (reader : DocumentReader) (words : List Text) : List Path :=
  match readRequest w words with
  | .error _ => []
  | .ok r =>
      let config := r.config.getD (w.cwd.child settingsFileName)
      let recipeFiles :=
        match (loadSettings reader w.tree w.cwd w.cwd r.config w.environment r.layer).2 with
        | .error _ => []
        | .ok settings =>
            match settings.recipeFile.map Wide.readable with
            | some (c :: rest) =>
                ((Path.ofText (c :: rest)).expandHome? w.home).toList.map w.cwd.join
            | _ => w.cwd.ancestors.flatMap fun d => recipeFileNames.map d.child
      config :: recipeFiles

/-- Invokes the recipe that the words name. -/
def invokeRequest (r : Request) (settings : Settings) (registry : Registry)
    (children : List Child) : List Shown × Ending :=
  let dispatcher : Dispatcher := {
    registry
    fallbackShell := settings.shell.map Wide.readable
    echo := settings.echo
    dryRun := r.dryRun }
  let shown := fun (recipe : Option Text) (steps : List Step) =>
    narrate (settings.logLevel == .debug) (recipe.getD []) 0 steps
  match dispatcher.invoke r.words.head? (r.words.drop 1) { children } with
  | .error broken => (shown broken.recipe broken.steps, .error (.invocation broken.cause))
  | .ok (steps, result) =>
      match result.fault with
      | some fault => (shown result.recipe steps ++ [.report fault.message], .ok result.status)
      | none => (shown result.recipe steps, .ok result.status)

/-- Does with a registry what the options ask for. -/
def serve (r : Request) (settings : Settings) (registry : Registry) (children : List Child) :
    List Shown × Ending :=
  let source := (registry.source.map Path.toString).getD "<text>"
  let loaded :=
    if settings.logLevel == .debug then
      [debugLine "recipes.parser" ("Loaded " ++ toString registry.recipes.length ++
        " recipe(s) from " ++ source)]
    else []
  if r.list then (loaded ++ [.out registry.listing], .ok 0)
  else
    let (shown, ending) := invokeRequest r settings registry children
    (loaded ++ shown, ending)

/-- A run with the options read. -/
def runRequest (reader : DocumentReader) (w : World) (r : Request) (children : List Child) :
    List Shown × Ending :=
  let (warning, loaded) := loadSettings reader w.tree w.cwd w.cwd r.config w.environment r.layer
  let warned := warning.toList.map fun u => Shown.err u.message.readable
  match loaded with
  | .error fault =>
      match fault.exitCode? with
      | some code => (warned ++ [.report fault.message], .ok code)
      | none => (warned, .error (.settings fault))
  | .ok settings =>
      let named := settings.recipeFile.map Wide.readable
      match resolveRecipeFile w.tree w.cwd w.home w.cwd named recipeFileNames with
      | .error fault =>
          match fault.exitCode? with
          | some code => (warned ++ [.report fault.message], .ok code)
          | none => (warned, .error (.discovery fault))
      | .ok file =>
          match Registry.loadFile w.tree w.cwd file with
          | .error fault =>
              match fault.exitCode? with
              | some code => (warned ++ [.report fault.message], .ok code)
              | none => (warned, .error (.registry fault))
          | .ok registry =>
              let (shown, ending) := serve r settings registry children
              (warned ++ shown, ending)

/-- A run with the words of the command line. -/
def run (reader : DocumentReader) (w : World) (words : List Text) (children : List Child) :
    List Shown × Ending :=
  match readRequest w words with
  | .error (.badValue .noHome) => ([], .error (.discovery .noHome))
  | .error fault => (.report (fault.message PathFault.message) :: usageShown, .ok 2)
  | .ok r => if r.help then (usageShown, .ok 0) else runRequest reader w r children

end Runbook
