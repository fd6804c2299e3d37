import Runbook.Text.Quoted

set_option autoImplicit false

/-! # Paths

A path is a number of leading slashes and a list of names. Writing it down and reading it again
loses nothing; reading a text drops empty names and single dots, and keeps double dots until the
path is *resolved* against a directory. Two leading slashes are told apart from one; three or
more count as one.
-/

namespace Runbook

/-- A path: relative (`slashes = 0`) or absolute. -/
structure Path where
  slashes : Nat
  parts : List Text
  deriving DecidableEq, Repr

namespace Path

/-- The texts between slashes. -/
def segments : Text → List Text
  | [] => [[]]
  | c :: rest =>
      if c == '/' then [] :: segments rest
      else
        match segments rest with
        | [] => [[c]]
        | s :: more => (c :: s) :: more

/-- The path that a text names. -/
def ofText (t : Text) : Path where
  slashes :=
    match (t.takeWhile (· == '/')).length with
    | 0 => 0
    | 2 => 2
    | _ => 1
  parts := (segments t).filter fun s => !s.isEmpty && s != ['.']

/-- The text of a path. The relative path without names is a dot. -/
def toText (p : Path) : Text :=
  if p.slashes == 0 && p.parts.isEmpty then ['.']
  else List.replicate p.slashes '/' ++ Text.join ['/'] p.parts

/-- What the system says of a path that is too long, or has a name that is. -/
def tooLongMessage (p : Path) : String :=
  "[Errno 36] File name too long: " ++ String.ofList (Text.quoted p.toText)

/-- The path as a string. -/
def toString (p : Path) : String := String.ofList p.toText

/-- Whether the path begins at the root. -/
def isAbsolute (p : Path) : Bool := p.slashes != 0

/-- The path `q` taken from the directory `p`. -/
def join (p q : Path) : Path := if q.isAbsolute then q else { p with parts := p.parts ++ q.parts }

/-- The path of an entry of the directory `p`. -/
def child (p : Path) (name : Text) : Path := p.join (ofText name)

/-- The path without its last name. -/
def parent (p : Path) : Path := { p with parts := p.parts.dropLast }

/-- Names with the double dots taken out, each together with the name before it. -/
def collapse (parts : List Text) : List Text :=
  parts.foldl (fun done s => if s == ['.', '.'] then done.dropLast else done ++ [s]) []

/-- The absolute path without double dots that `p` names from the directory `cwd`. -/
def resolve (cwd p : Path) : Path := ⟨1, collapse (cwd.join p).parts⟩

/-- The directory itself and all directories above it, nearest first. -/
def ancestors (p : Path) : List Path :=
  (List.range (p.parts.length + 1)).map fun n =>
    { p with parts := p.parts.take (p.parts.length - n) }

/-- The path with a tilde at its beginning replaced by the home directory. Only the tilde by
itself names a home directory that is known. -/
def expandHome? (home : Text) (p : Path) : Option Path :=
  match p.slashes, p.parts with
  | 0, ('~' :: user) :: more =>
      let kept := (home.reverse.dropWhile (· == '/')).reverse
      let dir := if kept.isEmpty then ['/'] else kept
      if user.isEmpty && dir.head? != some '~' then
        let h := ofText dir
        some { h with parts := h.parts ++ more }
      else none
  | _, _ => some p

end Path

end Runbook
