import Runbook.FileTree
import Runbook.RecipeFile.Reader
import Runbook.Text.Quoted
import Runbook.Text.Similar
import Runbook.Text.Utf8

set_option autoImplicit false

/-! # Registries

A registry holds the recipes of a recipe file in the order of the file, with the settings of the
file and the path it was read from. A registry read from a file is the one read from the file's
text, with line ends folded to line feeds.
-/

namespace Runbook

/-- The recipes of a recipe file. -/
structure Registry where
  recipes : List Recipe
  settings : FileSettings := {}
  source : Option Path := none
  deriving DecidableEq, Repr

/-- Why no registry could be read. -/
inductive RegistryFault where
  /-- The path of the file has a name, or is itself, too long for a file. -/
  | overlong (file : Path)
  | notFound (file : Path)
  | undecodable (source : Path) (fault : Utf8.Fault)
  | malformed (source : Option Path) (fault : LoadFault)
  deriving DecidableEq, Repr

/-- The fault in words. A fault of a line is preceded by its place. -/
def RegistryFault.message : RegistryFault → String
  | .overlong file => file.tooLongMessage
  | .notFound file => "Recipe file not found: " ++ file.toString
  | .undecodable source fault => source.toString ++ ": not valid UTF-8: " ++ fault.message
  | .malformed (some source) (.atLine line fault) =>
      source.toString ++ ":" ++ toString line ++ ": " ++ fault.message
  | .malformed none (.atLine line fault) => "line " ++ toString line ++ ": " ++ fault.message
  | .malformed _ (.repeatedRecipe name first second) =>
      "Recipe " ++ Text.ticked name ++ " defined on line " ++ toString second ++
        " is already defined on line " ++ toString first

/-- The exit status that reports the fault. A path that is too long is not reported; it breaks the
run off. -/
def RegistryFault.exitCode? : RegistryFault → Option Nat
  | .overlong _ => none
  | .notFound _ => some 200
  | .undecodable _ _ => some 201
  | .malformed _ (.atLine _ _) => some 201
  | .malformed _ (.repeatedRecipe _ _ _) => some 202

namespace Registry

/-! ## Reading -/

/-- The registry of a recipe file's text. -/
def ofText (source : Option Path) (t : Text) : Except RegistryFault Registry :=
  match readRecipeFile t with
  | .ok (recipes, settings) => .ok { recipes, settings, source }
  | .error fault => .error (.malformed source fault)

/-- The registry of a text that comes from no file. -/
def load (t : Text) : Except RegistryFault Registry := ofText none t

/-- The registry of a file. -/
def loadFile (tree : FileTree) (cwd file : Path) : Except RegistryFault Registry :=
  if tree.isOverlong cwd file then .error (.overlong file)
  else
  match tree.file? cwd file with
  | none => .error (.notFound file)
  | some bytes =>
      let source := Path.resolve cwd file
      match Utf8.decode bytes with
      | .error fault => .error (.undecodable source fault)
      | .ok t => ofText (some source) (Text.foldLineEnds t)

/-! ## Looking up -/

/-- The names of the recipes, in order. -/
def names (r : Registry) : List Text := r.recipes.map (·.name)

/-- The recipe of a name. -/
def find? (r : Registry) (name : Text) : Option Recipe := r.recipes.find? (·.name == name)

/-- The first recipe, which runs when none is named. -/
def default? (r : Registry) : Option Recipe := r.recipes.head?

/-- A recipe's name that is close to a name no recipe has. -/
def suggestion? (r : Registry) (name : Text) : Option Text := Similar.closest? name r.names

/-- The directory in which the recipes run: that of the recipe file. -/
def directory? (r : Registry) : Option Path := r.source.map Path.parent

/-! ## Showing -/

/-- The registry in one line. -/
def shown (r : Registry) : Text :=
  let source :=
    match r.source with
    | none => "None".toList
    | some p => "PosixPath(".toList ++ Text.quoted p.toText ++ [')']
  "Registry(".toList ++ Text.quotedList r.names ++ ", source=".toList ++ source ++ [')']

/-- The width of the longest signature. -/
def signatureWidth (r : Registry) : Nat :=
  (r.recipes.map fun x => x.signature.length).foldl max 0

/-- The line of a listing for one recipe: the documentation stands behind the signatures. -/
def listingLine (width : Nat) (r : Recipe) : Text :=
  let indent := List.replicate 4 ' '
  match r.doc with
  | some doc =>
      if doc.isEmpty then indent ++ r.signature
      else indent ++ Text.padEnd width r.signature ++ " # ".toList ++ doc
  | none => indent ++ r.signature

/-- The recipes with their parameters and documentation, a line for each. -/
def listing (r : Registry) : Text :=
  Text.unlines ("Available recipes:".toList :: r.recipes.map (listingLine r.signatureWidth))

end Registry

end Runbook
