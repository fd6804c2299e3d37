import Runbook.Text.CodePoint

set_option autoImplicit false

/-! # Reading the characters of a settings document

A *cursor* is a place in a document: what is left to read, and the line and column, which decide
the structure of a document. This file has the two kinds of scalar text: *plain* ones, which run
until a character that cannot belong to them, and *quoted* ones. Both may go on over several
lines; a single line break inside them then stands for a space, and of several the first is
dropped.
-/

namespace Runbook.Document

/-- Why a text is not a settings document. -/
inductive Malformed where
  /-- A control character stands in the text. -/
  | unreadable (c : Char)
  /-- No token begins with this character. -/
  | strayCharacter (c : Char)
  /-- A quoted text has no end. -/
  | openQuote
  /-- A backslash is followed by nothing it can escape. -/
  | badEscape
  /-- A document marker stands inside a quoted text. -/
  | markerInQuotes
  /-- An anchor, an alias or a tag has no proper name. -/
  | badName
  /-- An entry, a key or a value is not allowed at this place. -/
  | misplaced
  /-- A text at the indentation of keys is not followed by a colon. -/
  | keyWithoutColon
  /-- A token that does not fit the structure of the document. -/
  | unexpected
  /-- The document ends too early. -/
  | incomplete
  /-- An alias names no anchor. -/
  | unknownAlias (name : Text)
  /-- An anchor is set twice. -/
  | repeatedAnchor (name : Text)
  /-- A tag that has no meaning for its value. -/
  | unknownTag (tag : Text)
  /-- A list or a table is used as a key. -/
  | badKey
  /-- A second document follows the first. -/
  | secondDocument
  /-- Another cause, in the words of the reader that found it. -/
  | other (message : String)
  deriving DecidableEq, Repr

/-- What is wrong, in words. -/
def Malformed.message : Malformed → String
  | .unreadable _ => "a control character is not allowed"
  | .strayCharacter c => "no token begins with " ++ String.ofList [c]
  | .openQuote => "a quoted text is not closed"
  | .badEscape => "unknown escape"
  | .markerInQuotes => "a document marker inside a quoted text"
  | .badName => "an anchor, alias or tag has no proper name"
  | .misplaced => "an entry, key or value is not allowed here"
  | .keyWithoutColon => "a colon is missing after a key"
  | .unexpected => "unexpected structure"
  | .incomplete => "unexpected end of the document"
  | .unknownAlias name => "unknown alias " ++ String.ofList name
  | .repeatedAnchor name => "repeated anchor " ++ String.ofList name
  | .unknownTag tag => "unknown tag " ++ String.ofList tag
  | .badKey => "a list or a table cannot be a key"
  | .secondDocument => "more than one document"
  | .other message => message

/-- A number in a document that stands for nothing. -/
inductive BadNumber where
  /-- An escape gives a number that is no code. -/
  | noCode (n : Nat)
  /-- A number in base two or sixteen has no digits. -/
  | noDigits (base : Nat)
  /-- A number in base ten has more digits than are read. -/
  | tooLong (digits : Nat)
  /-- A number has more digits in base ten than are written. -/
  | tooLongToShow
  deriving DecidableEq, Repr

/-- Whether an escape gives a number that is too large even to be compared with the codes. -/
def BadNumber.overflows : BadNumber → Bool
  | .noCode n => 0x80000000 ≤ n
  | _ => false

/-- What is wrong with the number, in words. -/
def BadNumber.message (b : BadNumber) : String :=
  match b with
  | .noCode _ =>
      if b.overflows then "Python int too large to convert to C int"
      else "chr() arg not in range(0x110000)"
  | .noDigits base => "invalid literal for int() with base " ++ toString base ++ ": ''"
  | .tooLong digits => beyond (": value has " ++ toString digits ++ " digits")
  | .tooLongToShow => beyond ""
where
  /-- The message about more digits than are read or written. -/
  beyond (detail : String) : String :=
    "Exceeds the limit (" ++ toString Text.digitLimit ++ " digits) for integer string conversion" ++
      detail ++ "; use sys.set_int_max_str_digits() to increase the limit"

/-- Why a document has no value. -/
inductive Fault where
  | malformed (cause : Malformed)
  | badNumber (fault : BadNumber)
  /-- The reader broke off for another reason, in its words. -/
  | other (message : String)
  deriving DecidableEq, Repr

/-- Refuses a document as malformed. -/
def refuse {α : Type} (cause : Malformed) : Except Fault α := .error (.malformed cause)

/-! ## Characters -/

/-- The characters that end a line of a document. -/
def isBreak (c : Char) : Bool := c == '\n' || c == '\x85' || c == '\u2028' || c == '\u2029'

/-- Whether nothing but a blank, a line break or the end follows. -/
def atGap : Text → Bool
  | [] => true
  | c :: _ => c == ' ' || c == '\t' || isBreak c

/-- The characters that may stand in a document. -/
def isReadable (c : Char) : Bool :=
  c == '\t' || c == '\n' || c == '\r' || (0x20 ≤ c.toNat && c.toNat ≤ 0x7e) || c == '\x85' ||
    (0xa0 ≤ c.toNat && c.toNat ≤ 0xfffd) || 0x10000 ≤ c.toNat

/-- The break as it stands for itself inside a text: the ordinary ones become line feeds. -/
def breakText (c : Char) : Char := if c == '\x85' then '\n' else c

/-- Whether a document marker, three equal characters and a gap, stands here. -/
def isMarker (c : Char) : Text → Bool
  | x :: y :: z :: rest => x == c && y == c && z == c && atGap rest
  | _ => false

/-! ## Places -/

/-- A place in a document. -/
structure Cursor where
  rest : Text
  index : Nat
  line : Nat
  column : Nat

namespace Cursor

/-- The beginning of a text. -/
def start (t : Text) : Cursor := ⟨t, 0, 0, 0⟩

/-- The place behind one character. A byte order mark takes no column. -/
def next (c : Cursor) : Cursor :=
  match c.rest with
  | [] => c
  | x :: rest =>
      if isBreak x then ⟨rest, c.index + 1, c.line + 1, 0⟩
      else ⟨rest, c.index + 1, c.line, if x == '\ufeff' then c.column else c.column + 1⟩

/-- The place behind `n` characters. -/
def skip : Nat → Cursor → Cursor
  | 0, c => c
  | n + 1, c => skip n c.next

/-- The place behind the leading characters that satisfy `p`. -/
def skipWhile (p : Char → Bool) (c : Cursor) : Cursor := c.skip (c.rest.takeWhile p).length

end Cursor

/-- Spaces, comments and line breaks before a token, and whether a line break was among them. -/
def skipToToken : Nat → Cursor → Cursor × Bool
  | 0, c => (c, false)
  | fuel + 1, c =>
      let c := c.skipWhile (· == ' ')
      let c := if c.rest.head? == some '#' then c.skipWhile (fun x => !isBreak x) else c
      match c.rest with
      | x :: _ => if isBreak x then ((skipToToken fuel c.next).1, true) else (c, false)
      | [] => (c, false)

/-! ## Breaks inside scalars -/

/-- The line breaks and the blanks around them at the start of `c`, as the breaks they stand for.
A document marker ends a plain text (`none`). -/
def plainBreaks : Nat → Cursor → Text × Cursor × Bool
  | 0, c => ([], c, false)
  | fuel + 1, c =>
      match c.rest with
      | x :: _ =>
          if x == ' ' then plainBreaks fuel c.next
          else if isBreak x then
            let c := c.next
            if isMarker '-' c.rest || isMarker '.' c.rest then ([], c, true)
            else
              let (breaks, c', stop) := plainBreaks fuel c
              (breakText x :: breaks, c', stop)
          else ([], c, false)
      | [] => ([], c, false)

/-- What a line break and the further breaks after it stand for inside a scalar. -/
def foldedBreaks (first : Char) (more : Text) : Text :=
  if breakText first != '\n' then breakText first :: more
  else if more.isEmpty then [' '] else more

/-! ## Plain texts -/

/-- Whether the character ends a plain text, given what follows it. Inside brackets and braces
the characters that build lists and tables end it too. -/
def endsPlain (inFlow : Bool) (c : Char) (after : Text) : Bool :=
  c == ' ' || c == '\t' || isBreak c ||
    (c == ':' && (atGap after || (inFlow && after.head?.any (",[]\x7b\x7d".toList.contains ·)))) ||
    (inFlow && ",?[]\x7b\x7d".toList.contains c)

/-- The part of a plain text that stands without blanks. -/
def plainWord (inFlow : Bool) : Text → Text
  | [] => []
  | c :: rest => if endsPlain inFlow c rest then [] else c :: plainWord inFlow rest

/-- What lies between two words of a plain text: the text it stands for, the place behind it,
and whether it holds a line break. -/
def plainGap (c : Cursor) : Text × Cursor × Bool :=
  let blanks := c.rest.takeWhile (· == ' ')
  let c := c.skip blanks.length
  match c.rest with
  | x :: _ =>
      if isBreak x then
        let c := c.next
        if isMarker '-' c.rest || isMarker '.' c.rest then ([], c, true)
        else
          let (breaks, c', stop) := plainBreaks c.rest.length c
          (if stop then [] else foldedBreaks x breaks, c', true)
      else (blanks, c, false)
  | [] => (blanks, c, false)

/-- A plain text of a value whose continuation lines are indented by `indent` or more: its
characters, the place behind it, and whether that place is on a later line than its end. -/
def plainFrom (inFlow : Bool) (indent : Nat) : Nat → Text → Text → Bool → Cursor →
    Text × Cursor × Bool
  | 0, read, _, crossed, c => (read, c, crossed)
  | fuel + 1, read, gap, crossed, c =>
      let word := if c.rest.head? == some '#' then [] else plainWord inFlow c.rest
      if word.isEmpty then (read, c, crossed)
      else
        let read := read ++ gap ++ word
        let (gap, c, crossed) := plainGap (c.skip word.length)
        if gap.isEmpty || c.rest.head? == some '#' || (!inFlow && c.column < indent) then
          (read, c, crossed)
        else plainFrom inFlow indent fuel read gap crossed c

/-! ## Quoted texts -/

/-- The breaks after a line break inside quotes. -/
def quotedBreaks : Nat → Cursor → Except Fault (Text × Cursor)
  | 0, c => .ok ([], c)
  | fuel + 1, c =>
      if isMarker '-' c.rest || isMarker '.' c.rest then refuse .markerInQuotes
      else
        let c := c.skipWhile (fun x => x == ' ' || x == '\t')
        match c.rest with
        | x :: _ =>
            if isBreak x then do
              let (breaks, c') ← quotedBreaks fuel c.next
              .ok (breakText x :: breaks, c')
            else .ok ([], c)
        | [] => .ok ([], c)

/-- What a backslash and one character stand for. -/
def escaped? : Char → Option Char
  | '0' => some '\x00'
  | 'a' => some '\x07'
  | 'b' => some '\x08'
  | 't' => some '\t'
  | '\t' => some '\t'
  | 'n' => some '\n'
  | 'v' => some '\x0b'
  | 'f' => some '\x0c'
  | 'r' => some '\r'
  | 'e' => some '\x1b'
  | ' ' => some ' '
  | '"' => some '"'
  | '/' => some '/'
  | '\\' => some '\\'
  | 'N' => some '\x85'
  | '_' => some '\xa0'
  | 'L' => some '\u2028'
  | 'P' => some '\u2029'
  | _ => none

/-- The number of hexadecimal digits that give a character by its code. -/
def codeWidth? : Char → Option Nat
  | 'x' => some 2
  | 'u' => some 4
  | 'U' => some 8
  | _ => none

/-- The value of a hexadecimal digit. -/
def hexValue? (c : Char) : Option Nat :=
  if '0' ≤ c ∧ c ≤ '9' then some (c.toNat - 48)
  else if 'a' ≤ c ∧ c ≤ 'f' then some (c.toNat - 87)
  else if 'A' ≤ c ∧ c ≤ 'F' then some (c.toNat - 55)
  else none

/-- The number that hexadecimal digits write. -/
def hexNumber? (digits : Text) : Option Nat :=
  digits.foldl (fun n c => do some ((← n) * 16 + (← hexValue? c))) (some 0)

/-- The code point whose code is given by the first `width` characters. -/
def coded (width : Nat) (t : Text) : Except Fault CodePoint :=
  let digits := t.take width
  match hexNumber? digits with
  | some n =>
      if digits.length == width then
        match CodePoint.ofCode? n with
        | some p => .ok p
        | none => .error (.badNumber (.noCode n))
      else refuse .badEscape
  | none => refuse .badEscape

/-- The rest of a quoted text and the place behind its closing quote. -/
def quotedFrom (double : Bool) : Nat → Wide → Cursor → Except Fault (Wide × Cursor)
  | 0, _, _ => refuse .openQuote
  | fuel + 1, read, c =>
      match c.rest with
      | [] => refuse .openQuote
      | x :: after =>
          if !double && x == '\'' then
            if after.head? == some '\'' then quotedFrom double fuel (read ++ [.char x]) (c.skip 2)
            else .ok (read, c.next)
          else if double && x == '"' then .ok (read, c.next)
          else if double && x == '\\' then
            match after with
            | [] => refuse .badEscape
            | y :: digits =>
                match escaped? y, codeWidth? y with
                | some z, _ => quotedFrom double fuel (read ++ [.char z]) (c.skip 2)
                | none, some width => do
                    let z ← coded width digits
                    quotedFrom double fuel (read ++ [z]) (c.skip (2 + width))
                | none, none =>
                    if isBreak y then do
                      let (breaks, c') ← quotedBreaks fuel (c.skip 2)
                      quotedFrom double fuel (read ++ .ofText breaks) c'
                    else refuse .badEscape
          else if x == ' ' || x == '\t' || isBreak x then
            let blanks := c.rest.takeWhile (fun y => y == ' ' || y == '\t')
            let c := c.skip blanks.length
            match c.rest with
            | [] => refuse .openQuote
            | y :: _ =>
                if isBreak y then do
                  let (breaks, c') ← quotedBreaks fuel c.next
                  quotedFrom double fuel (read ++ .ofText (foldedBreaks y breaks)) c'
                else quotedFrom double fuel (read ++ .ofText blanks) c
          else quotedFrom double fuel (read ++ [.char x]) c.next

end Runbook.Document
