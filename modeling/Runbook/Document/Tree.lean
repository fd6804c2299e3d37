import Runbook.Document.Node
import Runbook.Document.Token

set_option autoImplicit false

/-! # The tree of a settings document

From the tokens of a document to its nodes, and so to its value. A list or a table is written in
lines or between brackets; a scalar may be left out and is then nothing. A node with an anchor can
be repeated by its alias further on.
-/

namespace Runbook.Document

/-- What is left to read, the fault behind it if there is one, and the nodes that have been given
an anchor. -/
structure Reading where
  tokens : List Token
  fault : Option Fault
  anchors : List (Text × Node)

/-- A step that reads tokens. -/
abbrev Reader (α : Type) := StateT Reading (Except Fault) α

namespace Reader

/-- Refuses the document as malformed. -/
def malformed {α : Type} (cause : Malformed) : Reader α := throw (.malformed cause)

/-- The next token. -/
def peek : Reader (Option Token) := do
  let r ← get
  match r.tokens, r.fault with
  | t :: _, _ => return some t
  | [], some fault => throw fault
  | [], none => return none

/-- Passes over the next token. -/
def advance : Reader Unit := modify fun r => { r with tokens := r.tokens.drop 1 }

/-- Whether the next token is one of these. -/
def at? (ts : List Token) : Reader Bool := do
  match ← peek with
  | some t => return ts.contains t
  | none => return false

/-- Passes over the next token if it is `t`, and says whether it was. -/
def take? (t : Token) : Reader Bool := do
  if ← at? [t] then
    advance
    return true
  else return false

/-- Passes over the token `t`, which must be next. -/
def expect (t : Token) : Reader Unit := do
  if !(← take? t) then malformed .unexpected

/-- The node of an alias. -/
def lookup (name : Text) : Reader Node := do
  match (← get).anchors.find? (·.1 == name) with
  | some (_, n) => return n
  | none => malformed (.unknownAlias name)

/-- Gives a node an anchor. -/
def setAnchor (name : Option Text) (n : Node) : Reader Node := do
  match name with
  | none => return n
  | some name =>
      if (← get).anchors.any (·.1 == name) then malformed (.repeatedAnchor name)
      modify fun r => { r with anchors := (name, n) :: r.anchors }
      return n

/-- The anchor and the tag before a value, in either order. -/
def properties : Reader (Option Text × Option Text) := do
  match ← peek with
  | some (.anchor name) =>
      advance
      match ← peek with
      | some (.tag tag) =>
          advance
          return (some name, some tag)
      | _ => return (some name, none)
  | some (.tag tag) =>
      advance
      match ← peek with
      | some (.anchor name) =>
          advance
          return (some name, some tag)
      | _ => return (none, some tag)
  | _ => return (none, none)

end Reader

/-- A scalar with a tag; the tag without a name makes it plain. -/
def scalarNode (plain : Bool) (t : Wide) (tag : Option Text) : Node :=
  if tag == some ['!'] then .scalar none true t else .scalar tag plain t

/-- The tag of a list or a table; the one without a name says nothing. -/
def collectionTag (tag : Option Text) : Option Text := tag.filter (· != ['!'])

open Reader

mutual

/-- A node. In lines (`block`) it may be a list or a table by indentation; the dashes of a list
that is the value of a key may stand at the column of the key (`dashes`). -/
def node : Nat → Bool → Bool → Reader Node
  | 0, _, _ => malformed .incomplete
  | fuel + 1, block, dashes => do
      match ← peek with
      | some (.alias name) =>
          advance
          lookup name
      | _ =>
          let (anchor, tag) ← properties
          match ← peek with
          | some (.scalar plain t) =>
              advance
              setAnchor anchor (scalarNode plain t tag)
          | some .leftBracket =>
              advance
              setAnchor anchor (.items (collectionTag tag) (← bracketItems fuel true []))
          | some .leftBrace =>
              advance
              setAnchor anchor (.table (collectionTag tag) (← braceEntries fuel true []))
          | some .dash =>
              if dashes then
                setAnchor anchor (.items (collectionTag tag) (← dashItems fuel false []))
              else missing anchor tag
          | some .openItems =>
              if block then
                advance
                setAnchor anchor (.items (collectionTag tag) (← dashItems fuel true []))
              else missing anchor tag
          | some .openEntries =>
              if block then
                advance
                setAnchor anchor (.table (collectionTag tag) (← lineEntries fuel []))
              else missing anchor tag
          | _ => missing anchor tag

/-- A node that is left out behind its anchor or its tag. -/
def missing (anchor tag : Option Text) : Reader Node := do
  if anchor.isNone && tag.isNone then malformed .unexpected
  setAnchor anchor (scalarNode true [] tag)

/-- A node, or the missing one where one of the tokens `ends` follows at once. -/
def nodeOr : Nat → List Token → Bool → Bool → Reader Node
  | 0, _, _, _ => malformed .incomplete
  | fuel + 1, ends, block, dashes => do
      if ← at? ends then return .missing else node fuel block dashes

/-- The items of a list in lines, `closed` by a token of its own if it opened with one. -/
def dashItems : Nat → Bool → List Node → Reader (List Node)
  | 0, _, _ => malformed .incomplete
  | fuel + 1, closed, items => do
      if ← take? .dash then
        let ends := if closed then [.dash, .close] else [.dash, .key, .value, .close]
        let v ← nodeOr fuel ends true false
        dashItems fuel closed (items ++ [v])
      else
        if closed then expect .close
        return items

/-- The entries of a table in lines. -/
def lineEntries : Nat → List (Node × Node) → Reader (List (Node × Node))
  | 0, _ => malformed .incomplete
  | fuel + 1, entries => do
      let ends := [Token.key, .value, .close]
      if ← take? .close then return entries
      else
        expect .key
        let k ← nodeOr fuel ends true true
        let v ← if ← take? .value then nodeOr fuel ends true true else pure .missing
        lineEntries fuel (entries ++ [(k, v)])

/-- The items between brackets. A key makes a table of its own of one entry. -/
def bracketItems : Nat → Bool → List Node → Reader (List Node)
  | 0, _, _ => malformed .incomplete
  | fuel + 1, first, items => do
      if ← take? .rightBracket then return items
      else
        if !first then expect .comma
        if ← take? .rightBracket then return items
        else if ← take? .key then
          let k ← nodeOr fuel [.value, .comma, .rightBracket] false false
          let v ← if ← take? .value then nodeOr fuel [.comma, .rightBracket] false false
            else pure .missing
          bracketItems fuel false (items ++ [.table none [(k, v)]])
        else
          let v ← node fuel false false
          bracketItems fuel false (items ++ [v])

/-- The entries between braces. A value without a colon is a key with nothing. -/
def braceEntries : Nat → Bool → List (Node × Node) → Reader (List (Node × Node))
  | 0, _, _ => malformed .incomplete
  | fuel + 1, first, entries => do
      if ← take? .rightBrace then return entries
      else
        if !first then expect .comma
        if ← take? .rightBrace then return entries
        else if ← take? .key then
          let k ← nodeOr fuel [.value, .comma, .rightBrace] false false
          let v ← if ← take? .value then nodeOr fuel [.comma, .rightBrace] false false
            else pure .missing
          braceEntries fuel false (entries ++ [(k, v)])
        else
          let k ← node fuel false false
          braceEntries fuel false (entries ++ [(k, .missing)])

end

/-- Passes over document end markers. -/
def skipFinish : Nat → Reader Unit
  | 0 => pure ()
  | fuel + 1 => do
      if ← take? .finish then skipFinish fuel

/-- The one document of a text, or nothing if there is none. -/
def document (fuel : Nat) : Reader (Option Node) := do
  if (← peek).isNone then return none
  let n ←
    if ← take? .start then
      if (← peek).isNone || (← at? [.start, .finish]) then pure .missing
      else node fuel true false
    else node fuel true false
  skipFinish fuel
  match ← peek with
  | none => return some n
  | some .start => malformed .secondDocument
  | some _ => malformed .unexpected

/-- The value of a settings document; nothing if it is empty. -/
def read (t : Text) : Except Fault Value := do
  let (ts, fault) := tokens t
  let bound := 4 * ts.length + 8
  let (n, _) ← (document bound).run ⟨ts, fault, []⟩
  match n with
  | some n => n.read bound
  | none => return .null

end Runbook.Document
