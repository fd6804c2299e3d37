import Runbook.Shell.Pattern

set_option autoImplicit false

/-! # Regular expressions

The regular expressions that utilities search for, in their two notations: the basic one, in which
the signs of groups, bounds and alternatives stand behind backslashes, and the extended one, in
which they do not. In programs the extended one has the escapes of programs. Of the matches that
begin earliest the longest one is taken.
-/

namespace Runbook.Shell

/-- A regular expression. -/
inductive Regular where
  | empty
  | byte (c : Char)
  | any
  | set (negated : Bool) (members : List Member)
  | start
  | finish
  /-- The edge of a word, or no such edge. -/
  | edge (wanted : Bool)
  | wordStart
  | wordEnd
  | group (number : Nat) (r : Regular)
  /-- What a group has matched. -/
  | again (number : Nat)
  | both (a b : Regular)
  | either (a b : Regular)
  | times (r : Regular) (least : Nat) (most : Option Nat)
  deriving Repr

/-- Why a text is no regular expression. -/
inductive RegularFault where
  | openGroup
  | closedGroup
  | openSet
  | openBound
  | badBound
  | badReference
  | nothingToRepeat
  | lastBackslash
  deriving DecidableEq, Repr

/-- The fault in words. -/
def RegularFault.message : RegularFault → String
  | .openGroup => "Unmatched ( or \\("
  | .closedGroup => "Unmatched ) or \\)"
  | .openSet => "Unmatched [, [^, [:, [., or [="
  | .openBound => "Unmatched \x7b or \\\x7b"
  | .badBound => "Invalid content of \\\x7b\\\x7d"
  | .badReference => "Invalid back reference"
  | .nothingToRepeat => "Invalid preceding regular expression"
  | .lastBackslash => "Trailing backslash"

namespace Regular

/-! ## Reading -/

/-- A token of a regular expression. -/
inductive Sign where
  | atom (r : Regular)
  | opening
  | closing
  | alternative
  | bounds (least : Nat) (most : Option Nat)
  deriving Repr

/-- A byte that belongs to words. -/
def isWordByte (c : Char) : Bool := c.isAlphanum || c == '_'

/-- How a regular expression is written. -/
structure Spelling where
  extended : Bool
  /-- Whether a backslash has the meaning that it has in programs, also between brackets. -/
  escapes : Bool := false

/-- The byte that an escape of programs stands for, and what stands behind it. -/
def programEscape : Text → Char × Text
  | [] => ('\\', [])
  | c :: rest =>
      match c with
      | 'a' => ('\x07', rest)
      | 'b' => ('\x08', rest)
      | 'f' => ('\x0c', rest)
      | 'n' => ('\n', rest)
      | 'r' => ('\r', rest)
      | 't' => ('\t', rest)
      | 'v' => ('\x0b', rest)
      | c =>
          let digits := ((c :: rest).take 3).takeWhile fun d => '0' ≤ d && d ≤ '7'
          if digits.isEmpty then (c, rest)
          else
            let n := digits.foldl (fun n d => n * 8 + (d.toNat - '0'.toNat)) 0
            (Char.ofNat (n % 256), (c :: rest).drop digits.length)

/-- Reads what brackets list. -/
def members (escapes : Bool) : Nat → Bool → Text → Option (List Member × Text)
  | 0, _, _ => none
  | _, _, [] => none
  | fuel + 1, first, c :: rest =>
      let add := fun (m : Member) (rest : Text) =>
        (members escapes fuel false rest).map fun (ms, after) => (m :: ms, after)
      if c == ']' && !first then some ([], rest)
      else if escapes && c == '\\' then
        let (b, after) := programEscape rest
        match after with
        | '-' :: d :: more =>
            if d == ']' then add (.range b b) after
            else if d == '\\' then
              let (e, more) := programEscape more
              add (.range b e) more
            else add (.range b d) more
        | _ => add (.range b b) after
      else
        match c, rest with
        | '[', ':' :: more =>
            let name := more.takeWhile Char.isAlpha
            match more.drop name.length with
            | ':' :: ']' :: after => add (.kind name) after
            | _ => none
        | '[', '=' :: d :: '=' :: ']' :: after => add (.range d d) after
        | '[', '.' :: d :: '.' :: ']' :: after => add (.range d d) after
        | _, '-' :: d :: after =>
            if d == ']' then add (.range c c) rest else add (.range c d) after
        | _, _ => add (.range c c) rest

/-- Reads the numbers of a bound, up to its end. -/
def bound (extended : Bool) (t : Text) : Except RegularFault (Sign × Text) :=
  let digits := t.takeWhile Char.isDigit
  let number := fun (ds : Text) => ds.foldl (fun n c => n * 10 + (c.toNat - '0'.toNat)) 0
  let (most, rest) := match t.drop digits.length with
    | ',' :: more =>
        let ds := more.takeWhile Char.isDigit
        (if ds.isEmpty then none else some (number ds), more.drop ds.length)
    | rest => (some (number digits), rest)
  let finish := fun (rest : Text) =>
    if most.any (· < number digits) || (digits.isEmpty && t.head? != some ',') then
      Except.error .badBound
    else .ok (Sign.bounds (number digits) most, rest)
  match extended, rest with
  | true, '\x7d' :: after => finish after
  | false, '\\' :: '\x7d' :: after => finish after
  | _, [] => .error .openBound
  | _, _ => .error .badBound

/-- Reads a token. `first` says whether an expression begins here, and `last` whether the rest
ends one. -/
def sign (k : Spelling) (first : Bool) (c : Char) (rest : Text) :
    Except RegularFault (Sign × Text) :=
  let extended := k.extended
  let literal := .ok (.atom (.byte c), rest)
  let endsHere := rest.isEmpty ||
    (extended && (rest.head? == some ')' || rest.head? == some '|')) ||
    (!extended && (rest.take 2 == ['\\', ')'] || rest.take 2 == ['\\', '|']))
  match c with
  | '.' => .ok (.atom .any, rest)
  | '[' =>
      let (negated, body) := match rest with
        | '^' :: more => (true, more)
        | _ => (false, rest)
      match members k.escapes (body.length + 1) true body with
      | some (ms, after) => .ok (.atom (.set negated ms), after)
      | none => .error .openSet
  | '^' => if extended || first then .ok (.atom .start, rest) else literal
  | '$' => if extended || endsHere then .ok (.atom .finish, rest) else literal
  | '*' => if first && !extended then literal else .ok (.bounds 0 none, rest)
  | '+' => if extended then .ok (.bounds 1 none, rest) else literal
  | '?' => if extended then .ok (.bounds 0 (some 1), rest) else literal
  | '(' => if extended then .ok (.opening, rest) else literal
  | ')' => if extended then .ok (.closing, rest) else literal
  | '|' => if extended then .ok (.alternative, rest) else literal
  | '\x7b' =>
      if extended && !first then
        match bound true rest, k.escapes with
        | .error _, true => literal
        | r, _ => r
      else literal
  | '\\' =>
      match rest, k.escapes with
      | [], _ => .error .lastBackslash
      | _, true =>
          let (b, after) := programEscape rest
          .ok (.atom (.byte b), after)
      | d :: after, false =>
          match d with
          | '(' => .ok (if extended then .atom (.byte d) else .opening, after)
          | ')' => .ok (if extended then .atom (.byte d) else .closing, after)
          | '|' => .ok (if extended then .atom (.byte d) else .alternative, after)
          | '\x7b' => if extended then .ok (.atom (.byte d), after) else bound false after
          | '+' => .ok (if extended || first then .atom (.byte d) else .bounds 1 none, after)
          | '?' =>
              .ok (if extended || first then .atom (.byte d) else .bounds 0 (some 1), after)
          | 'w' => .ok (.atom (.set false wordMembers), after)
          | 'W' => .ok (.atom (.set true wordMembers), after)
          | 's' => .ok (.atom (.set false [.kind "space".toList]), after)
          | 'S' => .ok (.atom (.set true [.kind "space".toList]), after)
          | 'b' => .ok (.atom (.edge true), after)
          | 'B' => .ok (.atom (.edge false), after)
          | '<' => .ok (.atom .wordStart, after)
          | '>' => .ok (.atom .wordEnd, after)
          | 'n' => .ok (.atom (.byte '\n'), after)
          | 't' => .ok (.atom (.byte '\t'), after)
          | d =>
              if d.isDigit && d != '0' then
                .ok (.atom (.again (d.toNat - '0'.toNat)), after)
              else .ok (.atom (.byte d), after)
  | _ => literal
where
  /-- The bytes of words. -/
  wordMembers : List Member := [.kind "alnum".toList, .range '_' '_']

/-- Reads alternatives. `closed` is what has been read of the expression, `branch` what has been
read of the current alternative without its last atom, `last` that atom, and `groups` the number
of groups begun so far. -/
def alternatives (k : Spelling) : Nat → Nat → Nat → Option Regular → Regular →
    Option Regular → Text → Except RegularFault (Regular × Nat × Text)
  | 0, _, _, _, _, _, _ => .error .openGroup
  | fuel + 1, depth, groups, closed, branch, last, t =>
      let whole := match last with
        | some r => Regular.both branch r
        | none => branch
      let done := match closed with
        | some r => Regular.either r whole
        | none => whole
      match t with
      | [] => if depth == 0 then .ok (done, groups, []) else .error .openGroup
      | c :: rest => do
          let first := last.isNone
          let (s, rest) ← sign k first c rest
          match s with
          | .atom r =>
              match r with
              | .again n => if groups < n then throw .badReference
              | _ => pure ()
              -- A sign of repetition behind a beginning stands for itself.
              let kept := match r with
                | .start => !k.extended
                | _ => false
              if kept then alternatives k fuel depth groups closed (.both whole r) none rest
              else alternatives k fuel depth groups closed whole (some r) rest
          | .opening => do
              let (inner, n, rest) ← alternatives k fuel (depth + 1) (groups + 1) none
                .empty none rest
              alternatives k fuel depth n closed whole (some (.group (groups + 1) inner))
                rest
          | .closing =>
              if depth != 0 then .ok (done, groups, rest)
              else if k.extended then
                alternatives k fuel depth groups closed whole (some (.byte ')')) rest
              else .error .closedGroup
          | .alternative =>
              alternatives k fuel depth groups (some done) .empty none rest
          | .bounds least most =>
              match last with
              | some r =>
                  alternatives k fuel depth groups closed branch
                    (some (.times r least most)) rest
              | none =>
                  if k.extended then
                    alternatives k fuel depth groups closed branch (some .empty) rest
                  else .error .nothingToRepeat

/-- The regular expression that a text is, and the number of its groups. -/
def withGroups (k : Spelling) (t : Text) : Except RegularFault (Regular × Nat) :=
  (fun (r, groups, _) => (r, groups)) <$>
    alternatives k (t.length + 1) 0 0 none .empty none t

/-- The regular expression that a text is. -/
def ofText (extended : Bool) (t : Text) : Except RegularFault Regular :=
  (·.1) <$> withGroups { extended } t

/-- The regular expression that a text is in a program. -/
def ofProgram (t : Text) : Except RegularFault Regular :=
  (·.1) <$> withGroups { extended := true, escapes := true } t

/-- The regular expression that matches a text alone. -/
def literal (t : Text) : Regular := t.foldr (fun c r => .both (.byte c) r) .empty

/-! ## Matching -/

/-- What the groups have matched: the number of each with the places where it begins and ends. -/
abbrev Groups := List (Nat × Nat × Nat)

/-- The ends of matches, the preferred one first, with only the first of each place. -/
def distinct (ends : List (Nat × Groups)) : List (Nat × Groups) :=
  (ends.foldl (fun (done : List (Nat × Groups)) e =>
    if done.any (·.1 == e.1) then done else e :: done) []).reverse

/-- The ends of a repetition of `step`. A turn that matches nothing is the last one. -/
def repeated (step : Nat → Groups → List (Nat × Groups)) :
    Nat → Nat → Option Nat → Nat → Groups → List (Nat × Groups)
  | 0, _, _, place, g => [(place, g)]
  | fuel + 1, least, most, place, g =>
      let more :=
        if most == some 0 then []
        else
          (step place g).flatMap fun (next, h) =>
            if next == place && least == 0 then []
            else repeated step fuel (least - 1) (most.map (· - 1)) next h
      distinct (more ++ if least == 0 then [(place, g)] else [])

/-- A text that is searched, and whether upper and lower case are the same in it. -/
structure Subject where
  bytes : Array Char
  folded : Bool

namespace Subject

/-- The byte at a place. -/
def at? (s : Subject) (place : Nat) : Option Char := s.bytes[place]?

/-- Whether two bytes are the same. -/
def same (s : Subject) (a b : Char) : Bool :=
  if s.folded then a.toLower == b.toLower else a == b

/-- Whether a byte of a word stands before a place, and at it. -/
def around (s : Subject) (place : Nat) : Bool × Bool :=
  (place != 0 && (s.at? (place - 1)).any isWordByte, (s.at? place).any isWordByte)

/-- The bytes between two places. -/
def between (s : Subject) (first last : Nat) : Text := (s.bytes.extract first last).toList

end Subject

/-- The ends of the matches of an expression that begin at a place. -/
def ends (s : Subject) : Regular → Nat → Groups → List (Nat × Groups)
  | .empty, place, g => [(place, g)]
  | .byte c, place, g => if (s.at? place).any (s.same c) then [(place + 1, g)] else []
  | .any, place, g => if (s.at? place).isSome then [(place + 1, g)] else []
  | .set negated members, place, g =>
      match s.at? place with
      | some c =>
          let found := members.any fun m =>
            m.has c || (s.folded && (m.has c.toLower || m.has c.toUpper))
          if found != negated then [(place + 1, g)] else []
      | none => []
  | .start, place, g => if place == 0 then [(place, g)] else []
  | .finish, place, g => if place == s.bytes.size then [(place, g)] else []
  | .edge wanted, place, g =>
      let (before, after) := s.around place
      if (before != after) == wanted then [(place, g)] else []
  | .wordStart, place, g => if s.around place == (false, true) then [(place, g)] else []
  | .wordEnd, place, g => if s.around place == (true, false) then [(place, g)] else []
  | .group n r, place, g =>
      (ends s r place g).map fun (e, h) => (e, (n, place, e) :: h.filter (·.1 != n))
  | .again n, place, g =>
      match g.find? (·.1 == n) with
      | some (_, first, last) =>
          let t := s.between first last
          let here := s.between place (place + t.length)
          if t.length == here.length && (t.zip here).all fun (a, b) => s.same a b then
            [(place + t.length, g)]
          else []
      | none => []
  | .both a b, place, g => distinct ((ends s a place g).flatMap fun (e, h) => ends s b e h)
  | .either a b, place, g => distinct (ends s a place g ++ ends s b place g)
  | .times r least most, place, g =>
      repeated (ends s r) (s.bytes.size + least + 1 - place) least most place g

/-- A match. -/
structure Match where
  first : Nat
  last : Nat
  groups : Groups

/-- What a group has matched. -/
def Match.group? (m : Match) (s : Subject) (number : Nat) : Option Text :=
  (m.groups.find? (·.1 == number)).map fun (_, first, last) => s.between first last

/-- The longest match that begins at a place and has a property. -/
def matchAt? (r : Regular) (s : Subject) (place : Nat) (good : Match → Bool) : Option Match :=
  let all := ((ends s r place []).map fun (e, g) => (⟨place, e, g⟩ : Match)).filter good
  all.foldl (fun best m =>
    match best with
    | some b => if b.last < m.last then some m else best
    | none => some m) none

/-- The first match from a place on that has a property, the longest of those that begin
there. -/
def find? (r : Regular) (s : Subject) (place : Nat) (good : Match → Bool) : Option Match :=
  (List.range' place (s.bytes.size + 1 - place)).findSome? fun p => matchAt? r s p good

end Regular

end Runbook.Shell
