import Runbook.RecipeFile.Fault
import Runbook.RecipeFile.Form

set_option autoImplicit false

/-! # Reading a recipe file

A recipe file is read line by line. A header begins a recipe; the indented lines behind it are
its body; the recipe is complete, and its placeholders are checked, at the next line that is
neither blank nor indented, or at the end. A comment directly above a header documents it.
-/

namespace Runbook

/-- A recipe whose body is being read, with the numbers of its body's lines. -/
structure Draft where
  recipe : Recipe
  numbers : List Nat
  deriving DecidableEq, Repr

/-- What has been read of a recipe file: the complete recipes in order, the settings and the
names of those given, the recipe that is being read, and the comment that will document the
next header. -/
structure Progress where
  recipes : List Recipe := []
  settings : FileSettings := {}
  given : List Text := []
  draft : Option Draft := none
  doc : Option Text := none
  deriving DecidableEq, Repr

/-! ## Checks -/

/-- The first fault in the order of parameters. `seen` holds the names so far; `optional` says
whether one of them is not required. -/
def parameterFault? (recipe : Text) : List Text → Bool → List Parameter → Option LineFault
  | _, _, [] => none
  | seen, optional, p :: rest =>
      if seen.contains p.name then some (.repeatedParameter recipe p.name)
      else if p.variadic && !rest.isEmpty then some (.variadicNotLast recipe p.name)
      else if p.isRequired && optional then some (.requiredTooLate recipe p.name)
      else parameterFault? recipe (p.name :: seen) (optional || !p.isRequired) rest

/-- The first placeholder of a recipe that names no parameter, with the place of its line. -/
def undeclared? (r : Recipe) : Option (Nat × Text) :=
  r.placeholders.find? fun (_, name) => !(r.parameters.any (·.name == name))

/-- The fault of what follows the parameters of a header: a single colon has to. -/
def tailFault? (name tail : Text) : Option LineFault :=
  match Text.trim tail with
  | ':' :: '=' :: _ => some .assignment
  | ':' :: more => if (Text.trim more).isEmpty then none else some (.dependencies name)
  | other => some (.expectedColon name other)

/-- The name and the parameters that a header declares. -/
def declaration (line : Text) : Except LineFault (Text × List Parameter) :=
  match readHeader line with
  | none => .error (.expectedName line)
  | some (name, parameters, tail) =>
      match tailFault? name tail with
      | some fault => .error fault
      | none =>
          match parameterFault? name [] false parameters with
          | some fault => .error fault
          | none => .ok (name, parameters)

/-- The settings with one of them given a value. -/
def FileSettings.give (s : FileSettings) (key : Text) (value : Option Text) :
    Except LineFault FileSettings :=
  if key == "positional-arguments".toList then
    match value with
    | none => .ok { s with positionalArguments := true }
    | some v =>
        if v == "true".toList then .ok { s with positionalArguments := true }
        else if v == "false".toList then .ok { s with positionalArguments := false }
        else .error (.expectedTruth key v)
  else if key == "shell".toList then
    match value.bind readList with
    | none => .error .expectedList
    | some items =>
        if items.head?.all (·.isEmpty) then .error .noCommand
        else .ok { s with shell := some items }
  else .error (.unknownSetting key)

namespace Progress

/-! ## Reading -/

/-- The state with the current recipe completed. -/
def finish (s : Progress) : Except LoadFault Progress :=
  match s.draft with
  | none => .ok s
  | some d =>
      match undeclared? d.recipe with
      | some (place, name) =>
          .error (.atLine (d.numbers.getD place 0) (.undeclared d.recipe.name name))
      | none => .ok { s with recipes := s.recipes ++ [d.recipe], draft := none }

/-- An indented line, with the entry that it adds to the body if it is no comment. -/
def readBody (n : Nat) (entry : Option Text) (s : Progress) : Except LoadFault Progress :=
  match s.draft, entry with
  | none, _ => .error (.atLine n .strayBody)
  | some _, none => .ok s
  | some d, some template =>
      let recipe := { d.recipe with body := d.recipe.body ++ [template] }
      .ok { s with draft := some ⟨recipe, d.numbers ++ [n]⟩ }

/-- A setting, which can be given once. -/
def readSet (n : Nat) (key : Text) (value : Option Text) (s : Progress) :
    Except LoadFault Progress :=
  if s.given.contains key then .error (.atLine n (.repeatedSetting key))
  else
    match s.settings.give key value with
    | .error fault => .error (.atLine n fault)
    | .ok settings => .ok { s with settings, given := key :: s.given, doc := none }

/-- The header of a recipe. -/
def readRecipe (n : Nat) (line : Text) (s : Progress) : Except LoadFault Progress :=
  match declaration line with
  | .error fault => .error (.atLine n fault)
  | .ok (name, parameters) =>
      match s.recipes.find? (·.name == name) with
      | some r => .error (.repeatedRecipe name r.line n)
      | none =>
          let recipe : Recipe := { name, parameters, doc := s.doc, line := n }
          .ok { s with draft := some ⟨recipe, []⟩, doc := none }

/-- The state after a line of number `n` and of a given form. Every line that is neither blank
nor indented completes the current recipe first. -/
def accept (s : Progress) (n : Nat) : LineForm → Except LoadFault Progress
  | .blank => .ok { s with doc := none }
  | .remark => s.readBody n none
  | .entry template => s.readBody n (some template)
  | .comment doc => do .ok { (← s.finish) with doc }
  | .setting key value => do (← s.finish).readSet n key value
  | .header line => do (← s.finish).readRecipe n line

/-- The state after line number `n`. -/
def readLine (s : Progress) (n : Nat) (raw : Text) : Except LoadFault Progress :=
  s.accept n (LineForm.of raw)

/-- The state after further lines, the first of which has number `n`. -/
def readLines (s : Progress) (n : Nat) : List Text → Except LoadFault Progress
  | [] => .ok s
  | line :: more => do (← s.readLine n line).readLines (n + 1) more

/-- The state after all lines of a recipe file, with the last recipe completed. -/
def ofLines (ls : List Text) : Except LoadFault Progress := do
  (← readLines {} 1 ls).finish

end Progress

/-- The recipes and the settings of a recipe file. -/
def readRecipeFile (t : Text) : Except LoadFault (List Recipe × FileSettings) := do
  let s ← Progress.ofLines (Text.lines t)
  .ok (s.recipes, s.settings)

end Runbook
