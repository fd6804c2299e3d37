import Runbook.FileTree

set_option autoImplicit false

/-! # Finding the recipe file

The recipe file is named, or it is the nearest file with one of the usual names: in the directory
of the project first, then in the directories above it. Within one directory the names count in
their order. A directory with such a name is not a recipe file.
-/

namespace Runbook

/-- The names of recipe files. -/
def recipeFileNames : List Text := ["Runfile".toList, "Justfile".toList, "justfile".toList]

/-- Why no recipe file was found. -/
inductive DiscoveryFault where
  /-- None of the names stands in the directory or above it. -/
  | notFound (names : List Text) (start : Path)
  /-- The file is named from a home directory that is not known. -/
  | noHome
  /-- The path of a file that was looked for has a name, or is itself, too long for a file. -/
  | overlong (file : Path)
  /-- The path of the directory where the search begins holds the null character. -/
  | nullCharacter
  deriving DecidableEq, Repr

/-- The fault in words. -/
def DiscoveryFault.message : DiscoveryFault → String
  | .notFound names start =>
      "No recipe file found (looked for " ++ String.ofList (Text.join [',', ' '] names) ++
        " in " ++ start.toString ++ " and its parents)"
  | .noHome => "Could not determine home directory."
  | .overlong file => file.tooLongMessage
  | .nullCharacter => "embedded null byte"

/-- The exit status that reports the fault. A home directory that is not known, a path that is too
long and one with a null character break the run off. -/
def DiscoveryFault.exitCode? : DiscoveryFault → Option Nat
  | .notFound _ _ => some 200
  | .noHome => none
  | .overlong _ => none
  | .nullCharacter => none

/-- The first of some paths that leads to a file. A path that is too long ends the search. -/
def firstFile? (tree : FileTree) (cwd : Path) : List Path → Except DiscoveryFault (Option Path)
  | [] => .ok none
  | p :: rest =>
      if tree.isOverlong cwd p then .error (.overlong p)
      else if tree.isFile cwd p then .ok (some p)
      else firstFile? tree cwd rest

/-- The nearest file with one of the names, from the directory `start` upwards. -/
def findRecipeFile (tree : FileTree) (cwd start : Path) (names : List Text) :
    Except DiscoveryFault Path :=
  if start.toText.contains '\x00' then .error .nullCharacter
  else
    let start := Path.resolve cwd start
    match firstFile? tree cwd (start.ancestors.flatMap fun d => names.map d.child) with
    | .ok (some file) => .ok file
    | .ok none => .error (.notFound names start)
    | .error fault => .error fault

/-- The recipe file: the named one, taken from the directory of the project, or the nearest. -/
def resolveRecipeFile (tree : FileTree) (cwd : Path) (home : Text) (project : Path)
    (named : Option Text) (names : List Text) : Except DiscoveryFault Path :=
  match named with
  | some (c :: rest) =>
      match (Path.ofText (c :: rest)).expandHome? home with
      | some file => .ok (project.join file)
      | none => .error .noHome
  | _ => findRecipeFile tree cwd project names

end Runbook
