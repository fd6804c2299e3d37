import Runbook.FileTree
import Runbook.Settings.Basic

set_option autoImplicit false

/-! # Settings files

A settings file is a document whose value is a table, or nothing. What the value of a text is, is up
to the reader of documents that is used. The names in the table that are
no settings are reported by one warning, in order. The values of a settings file count over the
defaults; those of the environment over both; those of the command line over all.
-/

namespace Runbook

/-- A reader of documents: the value of a text, or why it has none. -/
abbrev DocumentReader := Text → Except Document.Fault Value

/-- A warning, given as the file and the names it is about. -/
structure UnknownNames where
  file : Path
  names : List Wide
  deriving DecidableEq, Repr

/-- The warning in words. -/
def UnknownNames.message (w : UnknownNames) : Wide :=
  Wide.ofText ("Ignoring unknown settings in " ++ w.file.toString ++ ": ").toList ++
    List.intercalate (Wide.ofText [',', ' ']) w.names

/-- The names of the settings. -/
def settingNames : List Text :=
  ["recipe_file".toList, "shell".toList, "echo".toList, "log_level".toList]

/-- The file that is read from the directory of the project when no other is named. -/
def settingsFileName : Text := ".runner.yaml".toList

/-- The keys of a table that are not the name of a setting. -/
def unknownKeys (entries : List (Value × Value)) : List Value :=
  (entries.map (·.1)).filter fun k =>
    match k with
    | .text t => !t.text?.any settingNames.contains
    | _ => true

/-- Texts in dictionary order. -/
def sortTexts (ts : List Wide) : List Wide := ts.mergeSort fun a b => !Wide.before b a

/-- The table of a document's value, with the warning about unknown names if there are any. -/
def tableOf (file : Path) (v : Value) :
    Except SettingsFault (List (Value × Value) × Option UnknownNames) :=
  match v with
  | .null => .ok ([], none)
  | .table entries =>
      match texts? (unknownKeys entries) with
      | none => .error .namelessSetting
      | some [] => .ok (entries, none)
      | some names => .ok (entries, some ⟨file, sortTexts names⟩)
  | _ => .error (.notTable file)

/-- The table of a settings file's bytes. -/
def readSettingsFile (reader : DocumentReader) (file : Path) (bytes : List UInt8) :
    Except SettingsFault (List (Value × Value) × Option UnknownNames) :=
  match Utf8.decode bytes with
  | .error fault => .error (.undecodable (fault.heldBack bytes))
  | .ok t =>
      match reader (Text.foldLineEnds t) with
      | .error (.malformed cause) => .error (.malformed file cause)
      | .error (.badNumber fault) => .error (.badNumber fault)
      | .error (.other message) => .error (.unread message)
      | .ok v => tableOf file v

/-- The settings of a project in the directory `project`: those of the file `config`, which must
exist, or of the project's settings file if there is one, under those of the environment and of
the command line. A warning is given also when the values turn out to be wrong. -/
def loadSettings (reader : DocumentReader) (tree : FileTree) (cwd project : Path)
    (config : Option Path) (environment : List (Text × Text)) (commandLine : Layer) :
    Option UnknownNames × Except SettingsFault Settings :=
  let file := config.getD (project.child settingsFileName)
  let upper := commandLine.above (Layer.ofEnvironment environment)
  if tree.isOverlong cwd file then (none, .error (.overlong file))
  else
  match tree.file? cwd file with
  | some bytes =>
      match readSettingsFile reader file bytes with
      | .error fault => (none, .error fault)
      | .ok (entries, warning) => (warning, (upper.above (Layer.ofEntries entries)).resolve)
  | none =>
      match config with
      | some file => (none, .error (.notFound file))
      | none => (none, upper.resolve)

end Runbook
