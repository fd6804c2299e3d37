import Runbook.Document.Cursor
import Runbook.Path
import Runbook.Settings.Value
import Runbook.Text.Utf8
import Runbook.Text.Words

set_option autoImplicit false

/-! # Settings

The settings of the runner, the values that may be given to them, and what may be wrong with a
value. `resolve` checks the four values that are given; one that is not given has its default.
-/

namespace Runbook

/-- How much the runner logs. -/
inductive LogLevel where
  | debug
  | info
  | warning
  | error
  | critical
  deriving DecidableEq, Repr

namespace LogLevel

/-- The levels, the most talkative first. -/
def all : List LogLevel := [debug, info, warning, error, critical]

/-- The name of a level. -/
def name : LogLevel → String
  | debug => "DEBUG"
  | info => "INFO"
  | warning => "WARNING"
  | error => "ERROR"
  | critical => "CRITICAL"

end LogLevel

/-- The settings of the runner. -/
structure Settings where
  /-- The recipe file; none searches for one. -/
  recipeFile : Option Wide
  shell : List Wide
  echo : Bool
  logLevel : LogLevel
  deriving DecidableEq, Repr

/-- The values given to the settings, where they are given. -/
structure Layer where
  recipeFile : Option Value := none
  shell : Option Value := none
  echo : Option Value := none
  logLevel : Option Value := none

/-- What is wrong with settings. -/
inductive SettingsFault where
  | badEcho (value : Value)
  | badShell (value : Value)
  | badLogLevel (value : Value)
  /-- The path of the settings file has a name, or is itself, too long for a file. -/
  | overlong (file : Path)
  | notFound (file : Path)
  | malformed (file : Path) (cause : Document.Malformed)
  /-- A number of the settings cannot be read, or cannot be shown. -/
  | badNumber (fault : Document.BadNumber)
  /-- The reader of the settings file broke off. -/
  | unread (message : String)
  | notTable (file : Path)
  /-- The shell is a text that has no words. -/
  | badWords (fault : Words.Fault)
  /-- The settings file is not UTF-8. -/
  | undecodable (fault : Utf8.Fault)
  /-- An unknown setting has a name that is not a text. -/
  | namelessSetting

/-- The fault in words. -/
def SettingsFault.message : SettingsFault → String
  | .badEcho v => "Invalid boolean for echo: " ++ String.ofList v.shown
  | .badShell v =>
      "Invalid shell: expected a non-empty list of strings, got " ++ String.ofList v.shown
  | .badLogLevel v =>
      "Invalid log_level: " ++ String.ofList v.shown ++ " (expected one of " ++
        ", ".intercalate (LogLevel.all.map LogLevel.name) ++ ")"
  | .overlong file => file.tooLongMessage
  | .notFound file => "Settings file not found: " ++ file.toString
  | .malformed file cause =>
      "Could not parse settings file " ++ file.toString ++ ": " ++ cause.message
  | .badNumber fault => fault.message
  | .unread message => message
  | .notTable file => "Settings file " ++ file.toString ++ " must contain a mapping"
  | .badWords fault => fault.message
  | .undecodable fault => fault.message
  | .namelessSetting => "an unknown setting has a name that is not a text"

/-- The exit status that reports the fault. The faults without one are not reported; they break
the run off. -/
def SettingsFault.exitCode? : SettingsFault → Option Nat
  | .overlong _ => none
  | .badNumber _ => none
  | .unread _ => none
  | .badWords _ => none
  | .undecodable _ => none
  | .namelessSetting => none
  | _ => some 2

/-! ## Checking values -/

/-- A letter in lower case, as far as ASCII goes. No other letter has a lower case that occurs in
the words for truth values. -/
def lowered (t : Text) : Text := t.map Char.toLower

/-- A letter in upper case: the letters of ASCII, and those others whose upper case is made of
letters of ASCII. -/
def raisedChar (c : Char) : Text :=
  match c with
  | 'ı' => ['I']
  | 'ſ' => ['S']
  | 'ß' => ['S', 'S']
  | 'ﬀ' => ['F', 'F']
  | 'ﬁ' => ['F', 'I']
  | 'ﬂ' => ['F', 'L']
  | 'ﬃ' => ['F', 'F', 'I']
  | 'ﬄ' => ['F', 'F', 'L']
  | 'ﬅ' => ['S', 'T']
  | 'ﬆ' => ['S', 'T']
  | _ => [c.toUpper]

/-- A text in upper case. -/
def raised (t : Text) : Text := t.flatMap raisedChar

/-- A value that can be shown, as text or in a message. -/
def showable (v : Value) : Except SettingsFault Value :=
  if v.isShowable then .ok v else .error (.badNumber .tooLongToShow)

/-- Refuses a value with a fault that shows it. -/
def refuseValue {α : Type} (fault : Value → SettingsFault) (v : Value) :
    Except SettingsFault α := do
  throw (fault (← showable v))

/-- The words for true and for false. -/
def truthOf? (word : Text) : Option Bool :=
  if ["1", "true", "yes", "on"].any (·.toList == word) then some true
  else if ["0", "false", "no", "off"].any (·.toList == word) then some false
  else none

/-- Whether lines are echoed. -/
def checkEcho (v : Value) : Except SettingsFault Bool :=
  match v with
  | .bool b => .ok b
  | .text t =>
      match t.text?.bind fun t => truthOf? (lowered t) with
      | some b => .ok b
      | none => refuseValue .badEcho v
  | _ => refuseValue .badEcho v

/-- The texts of a list of texts. -/
def texts? : List Value → Option (List Wide)
  | [] => some []
  | .text t :: rest => (t :: ·) <$> texts? rest
  | _ :: _ => none

/-- A list of texts that is not empty. -/
def checkWords (v : Value) : Except SettingsFault (List Wide) :=
  match v with
  | .list (item :: items) =>
      match texts? (item :: items) with
      | some ts => .ok ts
      | none => refuseValue .badShell v
  | _ => refuseValue .badShell v

/-- The shell: a list of texts, or one text that is cut into words. -/
def checkShell (v : Value) : Except SettingsFault (List Wide) :=
  match v with
  | .text t =>
      match Words.split t with
      | .ok ws => checkWords (.list (ws.map .text))
      | .error fault => .error (.badWords fault)
  | _ => checkWords v

/-- The log level. -/
def checkLogLevel (v : Value) : Except SettingsFault LogLevel := do
  let v ← showable v
  match v.plain.text?.bind fun t => LogLevel.all.find? fun l => l.name.toList == raised t with
  | some l => .ok l
  | none => .error (.badLogLevel v)

/-- The recipe file: any value, as plain text. -/
def checkRecipeFile (v : Value) : Except SettingsFault Wide := do
  return (← showable v).plain

/-! ## Layers -/

/-- The layer that gives all that the settings hold. -/
def Settings.toLayer (s : Settings) : Layer where
  recipeFile := s.recipeFile.map .text
  shell := some (.list (s.shell.map .text))
  echo := some (.bool s.echo)
  logLevel := some (.ofText s.logLevel.name.toList)

namespace Layer

/-- The values that settings have when nothing is given. -/
def defaults : Layer where
  shell := some (.list [.ofText "sh".toList, .ofText "-cu".toList])
  echo := some (.bool true)
  logLevel := some (.ofText "WARNING".toList)

/-- A layer upon another: its values count where it gives one. -/
def above (upper lower : Layer) : Layer where
  recipeFile := upper.recipeFile <|> lower.recipeFile
  shell := upper.shell <|> lower.shell
  echo := upper.echo <|> lower.echo
  logLevel := upper.logLevel <|> lower.logLevel

/-- A value that is given. -/
def given? : Option Value → Option Value
  | some .null => none
  | v => v

/-- The values that a table gives to the settings. Nothing is no value. -/
def ofEntries (entries : List (Value × Value)) : Layer where
  recipeFile := given? (Value.find? entries "recipe_file".toList)
  shell := given? (Value.find? entries "shell".toList)
  echo := given? (Value.find? entries "echo".toList)
  logLevel := given? (Value.find? entries "log_level".toList)

/-- The value of a variable, unless it is empty. -/
def fromVariable (environment : List (Text × Text)) (name : String) : Option Value :=
  match environment.find? (·.1 == name.toList) with
  | some (_, value) => if value.isEmpty then none else some (.ofText value)
  | none => none

/-- The values that environment variables give to the settings. -/
def ofEnvironment (environment : List (Text × Text)) : Layer where
  recipeFile := fromVariable environment "RUNNER_FILE"
  shell := fromVariable environment "RUNNER_SHELL"
  echo := fromVariable environment "RUNNER_ECHO"
  logLevel := fromVariable environment "RUNNER_LOG_LEVEL"

/-- The settings that the values amount to. The recipe file is checked first, then the shell, then
the echo, then the log level. -/
def resolve (given : Layer) : Except SettingsFault Settings := do
  let layer := given.above defaults
  let recipeFile ← layer.recipeFile.mapM checkRecipeFile
  let shell ← checkShell (layer.shell.getD .null)
  let echo ← checkEcho (layer.echo.getD .null)
  let logLevel ← checkLogLevel (layer.logLevel.getD .null)
  .ok { recipeFile, shell, echo, logLevel }

end Layer

end Runbook
