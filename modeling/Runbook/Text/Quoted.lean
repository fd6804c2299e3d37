import Runbook.Text.Basic
import Runbook.Text.Printable

set_option autoImplicit false

/-! # Quoted text

How a text is shown inside a message: between apostrophes, or between quotation marks when it
holds an apostrophe and no quotation mark. Backslashes, the enclosing quote and every
unprintable character are escaped, so the shown form is one line of printable characters.
-/

namespace Runbook.Text

/-- `n` in base sixteen with at least `width` digits. -/
def hexadecimal (width n : Nat) : Text :=
  let digits := Nat.toDigits 16 n
  List.replicate (width - digits.length) '0' ++ digits

/-- The mark that encloses the shown form of a text. -/
def enclosingQuote (t : Text) : Char :=
  if t.contains '\'' && !t.contains '"' then '"' else '\''

/-- One character as it stands between the quotes `q`: unprintable characters are written by
their code in two, four or eight hexadecimal digits. -/
def escapeChar (q c : Char) : Text :=
  if c == q || c == '\\' then ['\\', c]
  else if c == '\n' then ['\\', 'n']
  else if c == '\r' then ['\\', 'r']
  else if c == '\t' then ['\\', 't']
  else if isPrintable c then [c]
  else if c.toNat < 0x100 then '\\' :: 'x' :: hexadecimal 2 c.toNat
  else if c.toNat < 0x10000 then '\\' :: 'u' :: hexadecimal 4 c.toNat
  else '\\' :: 'U' :: hexadecimal 8 c.toNat

/-- The shown form of a text. -/
def quoted (t : Text) : Text :=
  let q := enclosingQuote t
  q :: t.flatMap (escapeChar q) ++ [q]

/-- The shown form of a list of texts. -/
def quotedList (ts : List Text) : Text :=
  '[' :: join [',', ' '] (ts.map quoted) ++ [']']

end Runbook.Text
