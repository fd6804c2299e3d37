import Runbook.Document.Cursor

set_option autoImplicit false

/-! # The tokens of a settings document

A document is read as a list of tokens. Indentation is turned into tokens of its own: a list or
a table written in lines opens where its first entry stands further to the right than the
enclosing one, and closes before the first token that stands further to the left.

A key is recognised only at its colon, so the token `key` is put in later, in front of the text
that turns out to be one. Such a *candidate* is kept for each open bracket; it lapses at the end
of its line, or 1024 characters on.
-/

namespace Runbook.Document

/-- A token of a document. -/
inductive Token where
  /-- The marker that begins a document. -/
  | start
  /-- The marker that ends a document. -/
  | finish
  /-- A list in lines begins. -/
  | openItems
  /-- A table in lines begins. -/
  | openEntries
  /-- A list or a table in lines ends. -/
  | close
  | leftBracket
  | rightBracket
  | leftBrace
  | rightBrace
  /-- The dash before an item of a list in lines. -/
  | dash
  | comma
  | key
  | value
  | anchor (name : Text)
  | alias (name : Text)
  | tag (name : Text)
  /-- A text, `plain` if it stands without quotes. -/
  | scalar (plain : Bool) (text : Wide)
  deriving DecidableEq, Repr

/-- A token that becomes a key if a colon follows it: where it stands among the tokens and in
the text, and whether a key is needed there. -/
structure Candidate where
  position : Nat
  index : Nat
  line : Nat
  column : Nat
  required : Bool

/-- The state of the reader between two tokens. `indents` holds the columns of the open lists
and tables in lines, innermost first; `candidates` has an entry for each open bracket, innermost
first, and one for the text outside brackets. -/
structure Scan where
  cursor : Cursor
  tokens : List Token
  indents : List Nat
  candidates : List (Option Candidate)
  keyAllowed : Bool

namespace Scan

/-- Whether the reader is inside brackets or braces. -/
def inFlow (s : Scan) : Bool := 1 < s.candidates.length

/-- The column of the innermost list or table in lines, plus one; zero outside all of them. -/
def level (s : Scan) : Nat :=
  match s.indents with
  | [] => 0
  | n :: _ => n + 1

/-- The state with a token added. -/
def push (s : Scan) (t : Token) : Scan := { s with tokens := s.tokens ++ [t] }

/-- The innermost candidate. -/
def candidate? (s : Scan) : Option Candidate := s.candidates.head?.join

/-- The state with the innermost candidate replaced. -/
def setCandidate (s : Scan) (k : Option Candidate) : Scan :=
  { s with candidates := k :: s.candidates.drop 1 }

/-- The state without the innermost candidate, which must not be a required key. -/
def dropCandidate (s : Scan) : Except Fault Scan :=
  if s.candidate?.any (·.required) then refuse .keyWithoutColon else .ok (s.setCandidate none)

/-- The state in which the next token may turn out to be a key, if a key may stand here. -/
def saveCandidate (s : Scan) : Except Fault Scan :=
  let c := s.cursor
  if s.keyAllowed then do
    let s ← s.dropCandidate
    let required := !s.inFlow && s.level == c.column + 1
    .ok (s.setCandidate (some ⟨s.tokens.length, c.index, c.line, c.column, required⟩))
  else .ok s

/-- Whether a candidate can no longer become a key at this place. -/
def hasLapsed (c : Cursor) (k : Candidate) : Bool := k.line != c.line || 1024 < c.index - k.index

/-- The state without the candidates that have lapsed. -/
def dropLapsed (s : Scan) : Except Fault Scan :=
  if s.candidates.any (·.any fun k => hasLapsed s.cursor k && k.required) then
    refuse .keyWithoutColon
  else .ok { s with candidates := s.candidates.map (·.filter fun k => !hasLapsed s.cursor k) }

/-- The state with the lists and tables in lines closed that begin right of `column`; none is
closed inside brackets. -/
def closeRightOf (column : Nat) (s : Scan) : Scan :=
  if s.inFlow then s
  else
    let open_ := s.indents.dropWhile (column < ·)
    let closed := s.indents.length - open_.length
    { s with indents := open_, tokens := s.tokens ++ List.replicate closed .close }

/-- The state with every list and table in lines closed. -/
def closeAll (s : Scan) : Scan :=
  if s.inFlow then s
  else { s with indents := [], tokens := s.tokens ++ s.indents.map fun _ => .close }

/-- The state with a list or a table opened at `column` if that is right of the innermost one;
the token goes to place `position` among the tokens. -/
def openAt (column position : Nat) (t : Token) (s : Scan) : Scan :=
  if s.level ≤ column then
    { s with
      indents := column :: s.indents
      tokens := s.tokens.take position ++ t :: s.tokens.drop position }
  else s

/-- The state behind `n` characters. -/
def skip (n : Nat) (s : Scan) : Scan := { s with cursor := s.cursor.skip n }

/-! ## Reading one token -/

/-- A document marker. -/
def marker (t : Token) (s : Scan) : Except Fault Scan := do
  let s ← s.closeAll.dropCandidate
  .ok { (s.push t).skip 3 with keyAllowed := false }

/-- An opening bracket or brace. -/
def openBracket (t : Token) (s : Scan) : Except Fault Scan := do
  let s ← s.saveCandidate
  .ok { (s.push t).skip 1 with candidates := none :: s.candidates, keyAllowed := true }

/-- A closing bracket or brace. -/
def closeBracket (t : Token) (s : Scan) : Except Fault Scan := do
  if s.inFlow then
    let s ← s.dropCandidate
    .ok { (s.push t).skip 1 with candidates := s.candidates.drop 1, keyAllowed := false }
  else refuse .unexpected

/-- A comma between items or entries. -/
def commaSign (s : Scan) : Except Fault Scan := do
  let s ← s.dropCandidate
  .ok { (s.push .comma).skip 1 with keyAllowed := true }

/-- A dash, a question mark or a colon that opens a list or a table in lines where one may
begin. -/
def structureSign (opener sign : Token) (keyAfter : Bool) (s : Scan) : Except Fault Scan := do
  if !s.inFlow && !s.keyAllowed then refuse .misplaced
  else
    let s := if s.inFlow then s else s.openAt s.cursor.column s.tokens.length opener
    let s ← s.dropCandidate
    .ok { (s.push sign).skip 1 with keyAllowed := keyAfter }

/-- A colon. It makes a key of the candidate, and a table of the line the candidate begins. -/
def colonSign (s : Scan) : Except Fault Scan :=
  match s.candidate? with
  | some k =>
      let s := s.setCandidate none
      let s := { s with
        tokens := s.tokens.take k.position ++ Token.key :: s.tokens.drop k.position }
      let s := if s.inFlow then s else s.openAt k.column k.position .openEntries
      .ok { (s.push .value).skip 1 with keyAllowed := false }
  | none => s.structureSign .openEntries .value (!s.inFlow)

/-- The characters of names of anchors. -/
def isNameChar (c : Char) : Bool := c.isAlphanum || c == '-' || c == '_'

/-- An anchor or an alias, whose name runs up to a gap or a sign. -/
def namedSign (make : Text → Token) (s : Scan) : Except Fault Scan := do
  let s ← s.saveCandidate
  let name := (s.cursor.rest.drop 1).takeWhile isNameChar
  let after := s.cursor.rest.drop (1 + name.length)
  if name.isEmpty || !(atGap after || after.head?.any ("?:,]\x7d%@`".toList.contains ·)) then
    refuse .badName
  else .ok { (s.push (make name)).skip (1 + name.length) with keyAllowed := false }

/-- The characters of the names of tags. -/
def isTagChar (c : Char) : Bool := c.isAlphanum || "-;/?:@&=+$,_.!~*'()[]%".toList.contains c

/-- A tag. Two marks of exclamation stand for the common tags. -/
def tagSign (s : Scan) : Except Fault Scan := do
  let s ← s.saveCandidate
  let rest := s.cursor.rest.drop 1
  let name := rest.takeWhile isTagChar
  let after := rest.drop name.length
  let full := if name.head? == some '!' then "tag:yaml.org,2002:".toList ++ name.drop 1
    else '!' :: name
  if name == ['!'] || (name.drop 1).contains '!' || !atGap after then refuse .badName
  else .ok { (s.push (.tag full)).skip (1 + name.length) with keyAllowed := false }

/-- A quoted text. -/
def quotedText (double : Bool) (s : Scan) : Except Fault Scan := do
  let s ← s.saveCandidate
  let (text, c) ← quotedFrom double (s.cursor.rest.length + 1) [] s.cursor.next
  .ok { s.push (.scalar false text) with cursor := c, keyAllowed := false }

/-- A plain text. -/
def plainText (s : Scan) : Except Fault Scan := do
  let s ← s.saveCandidate
  let fuel := s.cursor.rest.length + 1
  let (text, c, crossed) := plainFrom s.inFlow s.level fuel [] [] false s.cursor
  .ok { s.push (.scalar true (.ofText text)) with cursor := c, keyAllowed := crossed }

/-- Whether a plain text may begin with the character, given what follows it. -/
def startsPlain (inFlow : Bool) (c : Char) (after : Text) : Bool :=
  !("-?:,[]\x7b\x7d#&*!|>'\"%@`".toList.contains c || atGap [c]) ||
    (!atGap after && (c == '-' || (!inFlow && (c == '?' || c == ':'))))

/-- The next token, the cursor standing at its first character `x`. -/
def readToken (x : Char) (after : Text) (s : Scan) : Except Fault Scan :=
  let atMargin := s.cursor.column == 0
  let gap := atGap after
  if x == '-' && atMargin && isMarker '-' s.cursor.rest then s.marker .start
  else if x == '.' && atMargin && isMarker '.' s.cursor.rest then s.marker .finish
  else if x == '[' then s.openBracket .leftBracket
  else if x == '{' then s.openBracket .leftBrace
  else if x == ']' then s.closeBracket .rightBracket
  else if x == '}' then s.closeBracket .rightBrace
  else if x == ',' then s.commaSign
  else if x == '-' && gap then s.structureSign .openItems .dash true
  else if x == '?' && (s.inFlow || gap) then s.structureSign .openEntries .key (!s.inFlow)
  else if x == ':' && (s.inFlow || gap) then s.colonSign
  else if x == '*' then s.namedSign .alias
  else if x == '&' then s.namedSign .anchor
  else if x == '!' then s.tagSign
  else if x == '\'' then s.quotedText false
  else if x == '"' then s.quotedText true
  else if startsPlain s.inFlow x after then s.plainText
  else refuse (.strayCharacter x)

/-- The tokens from a state on, and the fault that ends them if there is one. Every token takes a
character, so `fuel` above the number of characters left is enough. -/
def run : Nat → Scan → List Token × Option Fault
  | 0, s => (s.tokens, none)
  | fuel + 1, s =>
      let (c, crossed) := skipToToken (s.cursor.rest.length + 1) s.cursor
      let s := { s with cursor := c, keyAllowed := s.keyAllowed || (crossed && !s.inFlow) }
      match s.dropLapsed with
      | .error fault => (s.tokens, some fault)
      | .ok s =>
          let s := s.closeRightOf c.column
          match c.rest with
          | [] =>
              match s.closeAll.dropCandidate with
              | .ok s => (s.tokens, none)
              | .error fault => (s.tokens, some fault)
          | x :: after =>
              match s.readToken x after with
              | .ok s => run fuel s
              | .error fault => (s.tokens, some fault)

end Scan

/-- The tokens of a document up to its first fault, and the fault. A byte order mark at its very
beginning is passed over. -/
def tokens (t : Text) : List Token × Option Fault :=
  match t.find? (fun c => !isReadable c) with
  | some c => ([], some (.malformed (.unreadable c)))
  | none =>
      let c := Cursor.start t
      let c := if t.head? == some '\ufeff' then c.next else c
      Scan.run (t.length + 1) ⟨c, [], [], [none], true⟩

end Runbook.Document
