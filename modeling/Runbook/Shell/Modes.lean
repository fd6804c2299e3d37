import Runbook.Shell.Utility

set_option autoImplicit false

/-! # Modes

The permissions of an entry are bits: three for its owner, three for its group and three for all
others, which let them read, write and run it, and above these three special ones. A *mode* says
in a text how permissions are to be: it is an octal number, or a list of changes by letters.
-/

namespace Runbook.Shell

/-! ## Bits -/

/-- All bits of permissions. -/
def allBits : Nat := 0o7777

/-- The bits that are not among those of a number. -/
def otherBits (bits : Nat) : Nat := allBits - Nat.land allBits bits

/-- The bits that everyone has who can read, write or run. -/
def rightBits (c : Char) : Nat :=
  match c with
  | 'r' => 0o444
  | 'w' => 0o222
  | 'x' => 0o111
  | 's' => 0o6000
  | 't' => 0o1000
  | _ => 0

/-- The bits that belong to the owner, to the group, to the others or to all. -/
def classBits (c : Char) : Nat :=
  match c with
  | 'u' => 0o4700
  | 'g' => 0o2070
  | 'o' => 0o1007
  | 'a' => allBits
  | _ => 0

/-- The bits of some letters. -/
def bitsFor (f : Char → Nat) (t : Text) : Nat := t.foldl (fun bits c => Nat.lor bits (f c)) 0

/-- Permissions as letters, nine of them. -/
def shownBits (mode : Nat) : Text :=
  let three := fun (bits special : Nat) (low : Char) =>
    let x := bits % 2 == 1
    [if bits / 4 % 2 == 1 then 'r' else '-', if bits / 2 % 2 == 1 then 'w' else '-',
      if special % 2 == 1 then if x then low else low.toUpper else if x then 'x' else '-']
  three (mode / 64) (mode / 2048) 's' ++ three (mode / 8) (mode / 1024) 's' ++
    three mode (mode / 512) 't'

/-- Permissions as four octal digits. -/
def octalBits (mode : Nat) : Text :=
  let digits := Nat.toDigits 8 mode
  List.replicate (4 - digits.length) '0' ++ digits

/-! ## Changes -/

/-- Where the bits of a change come from. -/
inductive BitSource where
  /-- They are written down. -/
  | given
  /-- They are those that the owner, the group or the others have. -/
  | copied
  /-- They are written down; the right to run goes only where somebody has it, and to
  directories. -/
  | conditional
  deriving DecidableEq, Repr

/-- One change of permissions. -/
structure ModeChange where
  /-- Whether bits are set, added or taken away: an equals sign, a plus or a minus. -/
  operator : Char
  /-- The bits that are affected; none if it is not said whose they are. -/
  affected : Nat
  value : Nat
  /-- The bits that are spoken of. -/
  mentioned : Nat
  source : BitSource := .given

namespace ModeChange

/-- The change to permissions that are known. -/
def exactly (bits : Nat) : ModeChange :=
  { operator := '=', affected := allBits, value := bits, mentioned := allBits }

/-- The changes of a clause behind the letters that say who is affected. -/
def ofClause? (affected : Nat) : Nat → Text → Option (List ModeChange)
  | 0, _ => none
  | _, [] => some []
  | fuel + 1, op :: rest =>
      let made := fun (value mentioned : Nat) (source : BitSource) (more : Text) =>
        (ofClause? affected fuel more).map
          (({ operator := op, affected, value, mentioned, source } : ModeChange) :: ·)
      if !"+-=".toList.contains op then none
      else
        match rest with
        | c :: more =>
            if '0' ≤ c && c ≤ '7' then
              let digits := rest.takeWhile fun d => '0' ≤ d && d ≤ '7'
              let n := digits.foldl (fun n d => n * 8 + (d.toNat - '0'.toNat)) 0
              let after := rest.drop digits.length
              if affected != 0 || allBits < n || !after.isEmpty then none
              else some [{ operator := op, affected := allBits, value := n, mentioned := allBits }]
            else if "ugo".toList.contains c then
              let value := Nat.land (classBits c) 0o777
              made value affected .copied more
            else
              let letters := rest.takeWhile "rwxXst".toList.contains
              let bits := bitsFor rightBits letters
              let source := if letters.contains 'X' then BitSource.conditional else .given
              let mentioned := if affected == 0 then bits else Nat.land affected bits
              made bits mentioned source (rest.drop letters.length)
        | [] => made 0 0 .given []

/-- The permissions after a change, for an entry that may be a directory. -/
def apply (c : ModeChange) (isDirectory : Bool) (mask mode : Nat) : Nat :=
  -- A directory keeps the two bits of its owner and group that nobody has spoken of.
  let left := if isDirectory then Nat.land 0o6000 (otherBits c.mentioned) else 0
  let spread := fun (bits : Nat) => ("rwx".toList.map rightBits).foldl (fun all r =>
    if Nat.land bits r != 0 then Nat.lor all r else all) bits
  let value := match c.source with
    | .given => c.value
    | .copied => spread (Nat.land c.value mode)
    | .conditional =>
        if isDirectory || Nat.land mode 0o111 != 0 then Nat.lor c.value 0o111 else c.value
  let reach := if c.affected != 0 then c.affected else otherBits mask
  let value := Nat.land (Nat.land value reach) (otherBits left)
  match c.operator with
  | '+' => Nat.lor mode value
  | '-' => Nat.land mode (otherBits value)
  | _ =>
      let kept := Nat.lor (if c.affected != 0 then otherBits c.affected else 0) left
      Nat.lor (Nat.land mode kept) value

end ModeChange

/-- The changes that a mode asks for. -/
def modeChanges? (t : Text) : Option (List ModeChange) :=
  if !t.isEmpty && t.all fun c => '0' ≤ c && c ≤ '7' then
    let n := t.foldl (fun n c => n * 8 + (c.toNat - '0'.toNat)) 0
    let mentioned := if t.length < 5 then Nat.lor (Nat.land n 0o6000) 0o1777 else allBits
    if allBits < n then none
    else some [{ operator := '=', affected := allBits, value := n, mentioned }]
  else
    ((t.splitOn ',').mapM fun (clause : Text) =>
      let who := clause.takeWhile "ugoa".toList.contains
      let rest := clause.drop who.length
      if rest.isEmpty then none
      else ModeChange.ofClause? (bitsFor classBits who) (rest.length + 1) rest).map (·.flatten)

/-- The permissions after changes. -/
def changedMode (changes : List ModeChange) (isDirectory : Bool) (mask mode : Nat) : Nat :=
  changes.foldl (fun mode c => c.apply isDirectory mask mode) mode

/-! ## Changing them -/

/-- The entries at and below a place. -/
def entriesBelow (tree : FileTree) (deep : Bool) (names : List Text) (shown : Text) :
    List (List Text × Text × Entry) :=
  let path := fun (n : List Text) => shown ++ (n.drop names.length).flatMap fun t => '/' :: inward t
  let under := tree.entries.filterMap fun (n, e) =>
    if deep && names.isPrefixOf n && n != names then some (n, path n, e) else none
  ((tree.entry? names).map fun e => (names, shown, e)).toList ++
    under.mergeSort fun a b => !Text.before b.2.1 a.2.1

/-- Changes the permissions of files. -/
def changeMode (words : List Text) : Action Nat := do
  -- A mode that takes something away begins like an option.
  let isMode := fun (t : Text) => t.head? == some '-' && (modeChanges? t).isSome
  let kinds : OptionKinds := ⟨"Rcfv", "F", [("recursive", 'R'), ("changes", 'c'), ("silent", 'f'),
    ("quiet", 'f'), ("verbose", 'v'), ("reference", 'F')]⟩
  let taking := words.takeWhile (· != "--".toList) |>.find? isMode
  let others := match taking with
    | some t => words.erase t
    | none => words
  withOptions "chmod" kinds 1 (fun g => do
    let s ← get
    let mask := s.process.mask
    let (mode, operands) := match taking, g.value? 'F', g.operands with
      | some m, _, ts => (some m, ts)
      | none, some _, ts => (none, ts)
      | none, none, m :: ts => (some m, ts)
      | none, none, [] => (none, [])
    let model := (g.value? 'F').map fun t => (t, reached s t)
    if let some (t, none) := model then
      complainOf "chmod" "failed to get attributes of " (quoted t) (absence s t)
      return 1
    if operands.isEmpty then
      return ← match mode with
        | none => misused "chmod" "missing operand".toList 1
        | some m => misused "chmod" ("missing operand after ".toList ++ quoted m) 1
    let changes := match mode, model.bind (·.2) with
      | none, some names =>
          some [ModeChange.exactly (s.system.modeOf names)]
      | m, _ => modeChanges? (m.getD [])
    if changes.isNone then
      return ← misused "chmod" ("invalid mode: ".toList ++ quoted (mode.getD [])) 1
    let changes := changes.getD []
    let one := fun (names : List Text) (shown : Text) (e : Entry) => do
      let s ← get
      let isDirectory := e == .directory
      let old := s.system.modeOf names
      let new := changedMode changes isDirectory mask old
      let text := fun (m : Nat) => octalBits m ++ " (".toList ++ shownBits m ++ [')']
      modifySystem (·.setMode names new)
      if g.has 'v' || (g.has 'c' && new != old) then
        writeLine ("mode of ".toList ++ quoted shown ++ (if new == old then
            " retained as ".toList ++ text old
          else " changed from ".toList ++ text old ++ " to ".toList ++ text new))
      let wanted := changedMode changes isDirectory 0 old
      if taking.isSome && Nat.land new (otherBits wanted) != 0 then
        complainAs "chmod" (shown ++ ": new permissions are ".toList ++ shownBits new ++
          ", not ".toList ++ shownBits wanted)
        return false
      return true
    eachOf operands 1 fun t => do
      let s ← get
      match place? s t with
      | some (.entry names _) =>
          let mut good := true
          for (n, shown, e) in entriesBelow s.system.tree (g.has 'R') names t do
            if !(← one n shown e) then good := false
          return good
      | some _ => return true
      | none =>
          if !g.has 'f' then complainOf "chmod" "cannot access " (quoted t) (absence s t)
          return false) others

end Runbook.Shell
