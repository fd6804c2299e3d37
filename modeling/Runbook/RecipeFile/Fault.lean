import Runbook.Text.Basic

set_option autoImplicit false

/-! # Faults of a recipe file

What can be wrong with a recipe file. A fault of a line carries the number of the line it is
reported at; a recipe that is defined twice carries the numbers of both headers.
-/

namespace Runbook

/-- What is wrong with a line. -/
inductive LineFault where
  /-- An indented line before any header. -/
  | strayBody
  | repeatedSetting (key : Text)
  | expectedTruth (key value : Text)
  | expectedList
  /-- The shell is an empty list, or its command is the empty text. -/
  | noCommand
  | unknownSetting (key : Text)
  | expectedName (line : Text)
  | assignment
  | expectedColon (recipe tail : Text)
  | dependencies (recipe : Text)
  | repeatedParameter (recipe parameter : Text)
  /-- A variadic parameter that is not the last one. -/
  | variadicNotLast (recipe parameter : Text)
  /-- A required parameter behind one that is not required. -/
  | requiredTooLate (recipe parameter : Text)
  | undeclared (recipe parameter : Text)
  deriving DecidableEq, Repr

/-- What is wrong, in words. -/
def LineFault.message : LineFault → String
  | .strayBody => "Indented line outside of a recipe"
  | .repeatedSetting key => "Setting " ++ Text.ticked key ++ " set more than once"
  | .expectedTruth key value =>
      "Expected true or false for " ++ Text.ticked key ++ ", got " ++ Text.ticked value
  | .expectedList => "Expected a list of strings for `shell`, e.g. [\"sh\", \"-cu\"]"
  | .noCommand => "`shell` must name a command"
  | .unknownSetting key => "Unknown setting " ++ Text.ticked key
  | .expectedName line => "Expected a recipe name, got " ++ Text.ticked line
  | .assignment => "Variable assignments are not supported"
  | .expectedColon recipe tail =>
      "Expected `:` after recipe " ++ Text.ticked recipe ++ " parameters, got " ++ Text.ticked tail
  | .dependencies recipe =>
      "Recipe " ++ Text.ticked recipe ++ " has dependencies; they are not supported"
  | .repeatedParameter recipe parameter =>
      "Recipe " ++ Text.ticked recipe ++ " has duplicate parameter " ++ Text.ticked parameter
  | .variadicNotLast recipe parameter =>
      "Variadic parameter " ++ Text.ticked parameter ++ " must be the last parameter of " ++
        Text.ticked recipe
  | .requiredTooLate recipe parameter =>
      "Required parameter " ++ Text.ticked parameter ++ " of " ++ Text.ticked recipe ++
        " follows a parameter with a default"
  | .undeclared recipe parameter =>
      "Recipe " ++ Text.ticked recipe ++ " references undeclared parameter " ++
        Text.ticked parameter

/-- Why a text is not a recipe file. -/
inductive LoadFault where
  | atLine (line : Nat) (fault : LineFault)
  | repeatedRecipe (name : Text) (first : Int) (second : Nat)
  deriving DecidableEq, Repr

/-- The line a fault is reported at: for a recipe defined twice that of the second header. -/
def LoadFault.line : LoadFault → Nat
  | .atLine line _ => line
  | .repeatedRecipe _ _ second => second

end Runbook
