import Runbook.Recipe.Template

set_option autoImplicit false

/-! # Recipes

A recipe has a name, parameters, and a body of template lines. Arguments fill the plain
parameters from left to right; a variadic parameter, which stands last, takes those that are
left. A recipe is *checked* when the recipe-file reader has made sure of the order of its
parameters; the functions here are defined for every recipe.
-/

namespace Runbook

/-- A formal parameter of a recipe. -/
structure Parameter where
  name : Text
  default : Option Text := none
  variadic : Bool := false
  deriving DecidableEq, Repr

namespace Parameter

/-- A parameter without a default that takes exactly one argument. -/
def isRequired (p : Parameter) : Bool := p.default.isNone && !p.variadic

/-- The parameter as a listing shows it: a star before a variadic one, the default between
quotation marks. -/
def text (p : Parameter) : Text :=
  let star := if p.variadic then ['*'] else []
  match p.default with
  | none => star ++ p.name
  | some d => star ++ p.name ++ '=' :: '"' :: d ++ ['"']

end Parameter

/-- A recipe. `line` is the number of its header's line in the recipe file; a recipe that comes
from no file may have any number. -/
structure Recipe where
  name : Text
  parameters : List Parameter := []
  body : List Text := []
  doc : Option Text := none
  line : Int := 0
  deriving DecidableEq, Repr

namespace Recipe

/-- The variadic parameter, if the last parameter is one. -/
def variadic? (r : Recipe) : Option Parameter := r.parameters.getLast?.filter (·.variadic)

/-- The plain parameters, in order. -/
def positional (r : Recipe) : List Parameter := r.parameters.filter fun p => !p.variadic

/-- The least number of arguments. -/
def minArguments (r : Recipe) : Nat := r.parameters.countP (·.isRequired)

/-- The greatest number of arguments; there is none with a variadic parameter. -/
def maxArguments? (r : Recipe) : Option Nat :=
  if r.variadic?.isSome then none else some r.parameters.length

/-- The placeholders of the body with the places of their lines, in order of appearance. -/
def placeholders (r : Recipe) : List (Nat × Text) :=
  r.body.zipIdx.flatMap fun (line, index) => (placeholderNames line).map (index, ·)

/-- The name and the parameters, separated by spaces. -/
def signature (r : Recipe) : Text := Text.join [' '] (r.name :: r.parameters.map (·.text))

end Recipe

/-- What a recipe file sets for all its recipes. -/
structure FileSettings where
  /-- Whether the shell is given the arguments as well. -/
  positionalArguments : Bool := false
  /-- The command that runs a line. -/
  shell : Option (List Text) := none
  deriving DecidableEq, Repr

end Runbook
