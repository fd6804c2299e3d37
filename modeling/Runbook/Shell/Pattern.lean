import Runbook.Shell.Place

set_option autoImplicit false

/-! # Patterns

A pattern is matched against texts and against the names of files. An asterisk stands for any
bytes, a question mark for one, and brackets for one of the bytes they list, or behind a mark of
exclamation for one that they do not. Quoted bytes, and those behind a backslash, stand for
themselves.
-/

namespace Runbook.Shell

/-- A byte of a pattern that has not been read yet, with whether it is quoted. -/
abbrev Glyph := Bool × Char

/-- What a bracket lists. -/
inductive Member where
  | range (first last : Char)
  /-- The bytes of a class. -/
  | kind (name : Text)
  deriving DecidableEq, Repr

/-- A piece of a pattern. -/
inductive Piece where
  | any
  | one
  | literal (c : Char)
  | set (negated : Bool) (members : List Member)
  deriving DecidableEq, Repr

/-! ## Classes -/

/-- The punctuation of ASCII. -/
def isPunctuation (c : Char) : Bool :=
  (0x21 ≤ c.toNat && c.toNat ≤ 0x7e) && !c.isAlphanum

/-- Whether a byte belongs to the class of a name. -/
def isOfKind (name : Text) (c : Char) : Bool :=
  match String.ofList name with
  | "alnum" => c.isAlphanum
  | "alpha" => c.isAlpha
  | "blank" => c == ' ' || c == '\t'
  | "cntrl" => c.toNat < 0x20 || c.toNat == 0x7f
  | "digit" => c.isDigit
  | "graph" => 0x21 ≤ c.toNat && c.toNat ≤ 0x7e
  | "lower" => c.isLower
  | "print" => 0x20 ≤ c.toNat && c.toNat ≤ 0x7e
  | "punct" => isPunctuation c
  | "space" => c == ' ' || (0x09 ≤ c.toNat && c.toNat ≤ 0x0d)
  | "upper" => c.isUpper
  | "xdigit" => c.isDigit || ('a' ≤ c.toLower && c.toLower ≤ 'f')
  | _ => false

/-- Whether a bracket lists a byte. -/
def Member.has (m : Member) (c : Char) : Bool :=
  match m with
  | range a b => a.toNat ≤ c.toNat && c.toNat ≤ b.toNat
  | kind name => isOfKind name c

/-! ## Reading -/

/-- The name of the class that stands at the beginning, behind an opening bracket, and the
rest. -/
def readKind (gs : List Glyph) : Option (Text × List Glyph) :=
  match gs with
  | (false, ':') :: rest =>
      let name := (rest.takeWhile fun g => g.2.isAlpha).map (·.2)
      match rest.drop name.length with
      | (false, ':') :: (false, ']') :: more => some (name, more)
      | _ => none
  | _ => none

/-- The next byte, behind a backslash if one precedes it. -/
def readByte : List Glyph → Option (Char × List Glyph)
  | (false, '\\') :: (_, c) :: rest => some (c, rest)
  | (_, c) :: rest => some (c, rest)
  | [] => none

/-- Reads what a bracket lists, up to its end. -/
def readMembers : Nat → Bool → List Glyph → Option (List Member × List Glyph)
  | 0, _, _ => none
  | _, _, [] => none
  | fuel + 1, first, (quoted, c) :: rest =>
      let add := fun (m : Member) (rest : List Glyph) =>
        (readMembers fuel false rest).map fun (ms, after) => (m :: ms, after)
      if c == ']' && !quoted && !first then some ([], rest)
      else
        match if c == '[' && !quoted then readKind rest else none with
        | some (name, rest) => add (.kind name) rest
        | none =>
            match readByte ((quoted, c) :: rest) with
            | none => none
            | some (a, rest) =>
                match rest with
                | (false, '-') :: (q, d) :: more =>
                    if d == ']' && !q then add (.range a a) rest
                    else
                      match readByte ((q, d) :: more) with
                      | some (b, more) => add (.range a b) more
                      | none => none
                | _ => add (.range a a) rest

/-- The pieces of a pattern. A bracket that is not closed stands for itself. -/
def piecesOf : Nat → List Glyph → List Piece
  | 0, _ => []
  | _, [] => []
  | fuel + 1, (true, c) :: rest => .literal c :: piecesOf fuel rest
  | fuel + 1, (false, '*') :: rest => .any :: piecesOf fuel rest
  | fuel + 1, (false, '?') :: rest => .one :: piecesOf fuel rest
  | fuel + 1, (false, '\\') :: (_, c) :: rest => .literal c :: piecesOf fuel rest
  | fuel + 1, (false, '[') :: rest =>
      let (negated, inside) :=
        match rest with
        | (false, '!') :: more => (true, more)
        | _ => (false, rest)
      match readMembers (inside.length + 1) true inside with
      | some (ms, after) => .set negated ms :: piecesOf fuel after
      | none => .literal '[' :: piecesOf fuel rest
  | fuel + 1, (false, c) :: rest => .literal c :: piecesOf fuel rest

/-- The pattern that bytes make. -/
def patternOf (gs : List Glyph) : List Piece := piecesOf (gs.length + 1) gs

/-! ## Matching -/

/-- Whether a piece other than an asterisk matches a byte. -/
def Piece.accepts (p : Piece) (c : Char) : Bool :=
  match p with
  | any => true
  | one => true
  | literal d => c == d
  | set negated ms => ms.any (·.has c) != negated

/-- Whether a text matches a pattern. -/
def matchesPattern : List Piece → Text → Bool
  | [], t => t.isEmpty
  | .any :: p, [] => matchesPattern p []
  | .any :: p, c :: t => matchesPattern p (c :: t) || matchesPattern (.any :: p) t
  | q :: p, c :: t => q.accepts c && matchesPattern p t
  | _ :: _, [] => false
termination_by p t => p.length + t.length

/-- Whether a pattern stands for more than one text. -/
def isPattern (p : List Piece) : Bool :=
  p.any fun q =>
    match q with
    | .literal _ => false
    | _ => true

/-- The text of a pattern without asterisks, question marks and brackets. -/
def literalText (p : List Piece) : Text :=
  p.filterMap fun q =>
    match q with
    | .literal c => some c
    | _ => none

/-- The value without its shortest or longest beginning that matches. -/
def withoutStart (longest : Bool) (p : List Piece) (t : Text) : Text :=
  let counts := List.range (t.length + 1)
  match (if longest then counts.reverse else counts).find? fun n =>
      matchesPattern p (t.take n) with
  | some n => t.drop n
  | none => t

/-- The value without its shortest or longest end that matches. -/
def withoutEnd (longest : Bool) (p : List Piece) (t : Text) : Text :=
  let counts := List.range (t.length + 1)
  match (if longest then counts else counts.reverse).find? fun n =>
      matchesPattern p (t.drop n) with
  | some n => t.take n
  | none => t

/-! ## Names of files -/

/-- The pieces of a pattern between slashes. -/
def segments : List Piece → List (List Piece)
  | [] => [[]]
  | q :: rest =>
      match q, segments rest with
      | .literal '/', more => [] :: more
      | q, p :: more => (q :: p) :: more
      | q, [] => [[q]]

/-- The names in a directory, those of the directory itself and of the one above among them. -/
def namesIn (tree : FileTree) (dir : List Text) : List Text :=
  ["."].map (·.toList) ++ [['.', '.']] ++ (tree.namesIn dir).map inward

/-- The names from the root that a name leads to, from a directory. -/
def step? (tree : FileTree) (here : List Text) (name : Text) : Option (List Text) :=
  if name.isEmpty || name == ['.'] then tree.follow here []
  else tree.follow here [(outward? name).getD name]

/-- The paths that segments of a pattern match, from the directory `here`, written behind
`start`. Names that begin with a dot are matched only by a dot. -/
def pathsMatching (tree : FileTree) (here : List Text) (start : Text) :
    List (List Piece) → List Text
  | [] => [start]
  | p :: more =>
      let slash := if more.isEmpty then [] else ['/']
      if isPattern p then
        let dotted := p.head? == some (.literal '.')
        let names := ((namesIn tree here).filter fun n =>
          matchesPattern p n && (dotted || n.head? != some '.')).mergeSort
            fun a b => !Text.before b a
        names.flatMap fun n =>
          match step? tree here n with
          | some there =>
              if more.isEmpty || tree.entry? there == some .directory then
                pathsMatching tree there (start ++ n ++ slash) more
              else []
          | none => []
      else
        let name := literalText p
        match step? tree here name with
        | some there =>
            if more.isEmpty || tree.entry? there == some .directory then
              pathsMatching tree there (start ++ name ++ slash) more
            else []
        | none => []

/-- The paths that a pattern matches; none if it matches no file. -/
def filesMatching (s : State) (p : List Piece) : List Text :=
  match segments p with
  | [] :: more => pathsMatching s.system.tree [] ['/'] more
  | found => pathsMatching s.system.tree s.process.directory [] found

end Runbook.Shell
