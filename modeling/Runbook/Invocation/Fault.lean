import Runbook.Text.Basic

set_option autoImplicit false

/-! # Faults of an invocation

Why an invocation fails, from the choice of the recipe to the last line of its body. Every fault
has an exit status, which is not zero. The faults of the execution carry the number of the line
that failed, counted within the body from one.
-/

namespace Runbook

/-- Why an invocation fails. -/
inductive RunFault where
  /-- No recipe is named and there is none to run. -/
  | noRecipes
  | unknownRecipe (name : Text) (suggestion : Option Text)
  /-- No argument is left for a required parameter. -/
  | missingArgument (recipe parameter : Text) (expected got : Nat)
  /-- Arguments are left that no parameter takes. -/
  | extraArguments (recipe : Text) (extra : List Text) (capacity : Nat)
  /-- A placeholder names nothing that is bound. -/
  | unresolved (recipe placeholder : Text)
  /-- The process of a line could not be started. -/
  | notStarted (recipe : Text) (line : Nat) (command reason : Text)
  /-- The process of a line ended with a status other than zero. -/
  | exited (recipe : Text) (line : Nat) (status : Int)
  /-- The process of a line was ended by a signal, or a signal asked to end the invocation. -/
  | killed (recipe : Text) (line : Nat) (signal : Int)
  deriving DecidableEq, Repr

namespace RunFault

/-- The fault in words. -/
def message : RunFault → String
  | noRecipes => "Recipe file contains no recipes"
  | unknownRecipe name suggestion =>
      "Recipe file does not contain recipe " ++ Text.ticked name ++
        match suggestion with
        | some other => ". Did you mean " ++ Text.ticked other ++ "?"
        | none => ""
  | missingArgument recipe parameter expected got =>
      "Recipe " ++ Text.ticked recipe ++ " got " ++ toString got ++
        " argument(s) but takes at least " ++ toString expected ++ " (missing " ++
        Text.ticked parameter ++ ")"
  | extraArguments recipe extra capacity =>
      "Recipe " ++ Text.ticked recipe ++ " takes at most " ++ toString capacity ++
        " argument(s); unexpected: " ++ String.ofList (Text.join [' '] extra)
  | unresolved recipe placeholder =>
      "Internal error: unresolved placeholder `\x7b\x7b" ++ String.ofList placeholder ++
        "\x7d\x7d` in recipe " ++ Text.ticked recipe
  | notStarted recipe line command reason =>
      "Recipe " ++ Text.ticked recipe ++ " could not start " ++ Text.ticked command ++
        " on line " ++ toString line ++ ": " ++ String.ofList reason
  | exited recipe line status =>
      "Recipe " ++ Text.ticked recipe ++ " failed on line " ++ toString line ++
        " with exit code " ++ toString status
  | killed recipe line signal =>
      "Recipe " ++ Text.ticked recipe ++ " was terminated on line " ++ toString line ++
        " by signal " ++ toString signal

/-- The exit status that reports the fault. -/
def exitCode : RunFault → Int
  | noRecipes => 1
  | unknownRecipe _ _ => 203
  | missingArgument _ _ _ _ => 204
  | extraArguments _ _ _ => 205
  | unresolved _ _ => 206
  | notStarted _ _ _ _ => 127
  | exited _ _ status => status
  | killed _ _ signal => 128 + signal

/-- The line that failed, if a line had been reached. -/
def line? : RunFault → Option Nat
  | notStarted _ line _ _ => some line
  | exited _ line _ => some line
  | killed _ line _ => some line
  | _ => none

/-- Whether the fault arose while lines were executed. -/
def isExecution (f : RunFault) : Bool := f.line?.isSome

end RunFault

end Runbook
