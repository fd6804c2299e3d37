import Runbook.Path

set_option autoImplicit false

/-! # File trees

A file tree gives, for absolute lists of names, what stands there: a directory or a file with its
bytes, which may be *runnable* as a program. Paths are followed name by name: a double dot leads to
the directory above, and every name but the last must be that of a directory.
-/

namespace Runbook

/-- What stands at a place of a file tree. -/
inductive Entry where
  | directory
  | file (bytes : List UInt8) (runnable : Bool)
  deriving DecidableEq, Repr

/-- A file tree: the entries by their names from the root. The root is a directory. -/
structure FileTree where
  entries : List (List Text × Entry)

namespace FileTree

/-- The tree with nothing but the root. -/
def empty : FileTree := ⟨[]⟩

/-- The entry at a list of names from the root. -/
def entry? (tree : FileTree) (names : List Text) : Option Entry :=
  if names.isEmpty then some .directory
  else (tree.entries.find? (·.1 == names)).map (·.2)

/-- The tree with the entry at `names` set, whatever stood there. -/
def put (tree : FileTree) (names : List Text) (e : Entry) : FileTree :=
  ⟨(names, e) :: tree.entries.filter (·.1 != names)⟩

/-- The tree without the entry at `names` and all that lies below it. -/
def remove (tree : FileTree) (names : List Text) : FileTree :=
  ⟨tree.entries.filter fun (n, _) => !(names.isPrefixOf n)⟩

/-- The tree with the directory `names` and all above it. -/
def makeDirectories (tree : FileTree) (names : List Text) : FileTree :=
  (List.range (names.length + 1)).foldl
    (fun tree n =>
      let dir := names.take n
      if (tree.entry? dir).isNone then tree.put dir .directory else tree)
    tree

/-- The tree with a file and the directories above it. -/
def addFile (tree : FileTree) (names : List Text) (bytes : List UInt8) : FileTree :=
  (tree.makeDirectories names.dropLast).put names (.file bytes false)

/-- The names of the entries of the directory `dir`. -/
def namesIn (tree : FileTree) (dir : List Text) : List Text :=
  tree.entries.filterMap fun (names, _) =>
    if names.dropLast == dir then names.getLast? else none

/-- The names from the root that a path leads to, from the directory `here`. -/
def follow (tree : FileTree) : List Text → List Text → Option (List Text)
  | here, [] => if (tree.entry? here).isSome then some here else none
  | here, name :: more =>
      if tree.entry? here == some .directory then
        follow tree (if name == ['.', '.'] then here.dropLast else here ++ [name]) more
      else none

/-- How many bytes the name of a file may have. -/
def nameLimit : Nat := 255

/-- How many bytes a path may have. -/
def pathLimit : Nat := 4095

/-- The number of bytes of a text in a path. -/
def byteLength (t : Text) : Nat := t.foldl (fun n c => n + c.utf8Size) 0

/-- Whether names, followed from the directory `here`, come to one that is too long for a file. -/
def meetsLongName (tree : FileTree) : List Text → List Text → Bool
  | _, [] => false
  | here, name :: more =>
      tree.entry? here == some .directory &&
        (nameLimit < byteLength name ||
          meetsLongName tree (if name == ['.', '.'] then here.dropLast else here ++ [name]) more)

/-- Whether a path is too long to be followed, or comes to a name that is too long for a file. A
path with a null character is not followed at all. -/
def isOverlong (tree : FileTree) (cwd p : Path) : Bool :=
  !p.toText.contains '\x00' &&
    (pathLimit < byteLength p.toText || tree.meetsLongName [] (cwd.join p).parts)

/-- What stands where a path leads to from the directory `cwd`. -/
def look? (tree : FileTree) (cwd p : Path) : Option Entry :=
  (tree.follow [] (cwd.join p).parts).bind tree.entry?

/-- The bytes of the file that a path leads to. -/
def file? (tree : FileTree) (cwd p : Path) : Option (List UInt8) :=
  match tree.look? cwd p with
  | some (.file bytes _) => some bytes
  | _ => none

/-- Whether a path leads to a file. -/
def isFile (tree : FileTree) (cwd p : Path) : Bool := (tree.file? cwd p).isSome

end FileTree

end Runbook
