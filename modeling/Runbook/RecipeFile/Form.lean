import Runbook.RecipeFile.Line

set_option autoImplicit false

/-! # The forms of a line

What a line of a recipe file is, apart from the lines around it. An indented line belongs to the
body of a recipe; of the lines that are not indented, a comment may document the next header, and
all that is neither a comment nor a setting has to be a header. Blanks at the end of a line never
count.
-/

namespace Runbook

/-- The form of a line. -/
inductive LineForm where
  /-- Nothing but blanks. -/
  | blank
  /-- A comment in a body. -/
  | remark
  /-- A template line of a body, trimmed. -/
  | entry (template : Text)
  /-- A comment that is not indented, with its text if it has one. -/
  | comment (doc : Option Text)
  | setting (key : Text) (value : Option Text)
  /-- All else, without the comment at its end. -/
  | header (line : Text)
  deriving DecidableEq, Repr

namespace LineForm

/-- The form of an indented line. -/
def ofIndented (line : Text) : LineForm :=
  let entry := Text.trim line
  if entry.head? == some '#' then remark else .entry entry

/-- The form of a comment, given what follows its mark. -/
def ofComment (rest : Text) : LineForm :=
  let doc := Text.trim rest
  comment (if doc.isEmpty then none else some doc)

/-- The form of a line that is a setting or a header, without its comment. -/
def ofDirective (line : Text) : LineForm :=
  match readSetting line with
  | some (key, value) => setting key value
  | none => header line

/-- The form of a line. -/
def of (raw : Text) : LineForm :=
  match Text.trimEnd raw with
  | [] => blank
  | c :: rest =>
      if c == ' ' || c == '\t' then ofIndented (c :: rest)
      else if c == '#' then ofComment rest
      else ofDirective (stripComment (c :: rest))

end LineForm

end Runbook
