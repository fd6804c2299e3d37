import Runbook.Recipe.Basic

set_option autoImplicit false

/-! # Writing a recipe file

The canonical text of settings and recipes: the settings that differ from the defaults, one on a
line; then for each recipe a line that is empty, its documentation as a comment, its header, and
its body indented by four blanks. A quoted text is written between quotation marks, or between
apostrophes if it holds a quotation mark; a text that holds both has no written form.
-/

namespace Runbook

/-- The mark that a text is written between. -/
def quoteMark (t : Text) : Char := if t.contains '"' then '\'' else '"'

/-- A text between its marks. -/
def quotedForm (t : Text) : Text := quoteMark t :: t ++ [quoteMark t]

/-- A parameter as a header writes it. -/
def Parameter.printed (p : Parameter) : Text :=
  (if p.variadic then ['*'] else []) ++ p.name ++
    match p.default with
    | some d => '=' :: quotedForm d
    | none => []

/-- The header of a recipe. -/
def Recipe.header (r : Recipe) : Text :=
  Text.join [' '] (r.name :: r.parameters.map Parameter.printed) ++ [':']

/-- The lines of a recipe. -/
def Recipe.printed (r : Recipe) : List Text :=
  [] :: (r.doc.toList.map ("# ".toList ++ ·) ++
    r.header :: r.body.map (List.replicate 4 ' ' ++ ·))

/-- The lines of settings. -/
def FileSettings.printed (s : FileSettings) : List Text :=
  (if s.positionalArguments then ["set positional-arguments".toList] else []) ++
    s.shell.toList.map fun words =>
      "set shell := [".toList ++ Text.join [',', ' '] (words.map quotedForm) ++ [']']

/-- The text of a recipe file. -/
def printRecipeFile (s : FileSettings) (recipes : List Recipe) : Text :=
  Text.terminated (s.printed ++ recipes.flatMap Recipe.printed)

end Runbook
