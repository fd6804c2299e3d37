import Runbook.Text.CodePoint

set_option autoImplicit false

/-! # Words of a command

A command given as one text is cut into words at blanks, tabs and line ends. Quotes and
backslashes keep characters together: between apostrophes every character stands for itself;
between quotation marks a backslash escapes a quotation mark or a backslash and otherwise stands
for itself; outside quotes it escapes the next character. Quoting an empty text makes an empty
word.
-/

namespace Runbook.Words

/-- Why a command text has no words. -/
inductive Fault where
  /-- A quote is never closed. -/
  | openQuote
  /-- The text ends in a backslash that escapes nothing. -/
  | openEscape
  deriving DecidableEq, Repr

/-- What is wrong, in words. -/
def Fault.message : Fault → String
  | .openQuote => "No closing quotation"
  | .openEscape => "No escaped character"

/-- Where the reader stands. -/
inductive Place where
  /-- Between two words. -/
  | gap
  /-- In a word, outside quotes. -/
  | bare
  /-- In a word, between quotes of this kind. -/
  | quote (mark : Char)
  /-- Behind a backslash outside quotes. -/
  | bareEscape
  /-- Behind a backslash between quotation marks. -/
  | quoteEscape
  deriving DecidableEq, Repr

/-- The characters that separate words. -/
def isSeparator (p : CodePoint) : Bool := p == ' ' || p == '\t' || p == '\r' || p == '\n'

/-- The words of the rest of a command, `word` being what has been read of the current one. -/
def splitFrom : Place → Wide → Wide → Except Fault (List Wide)
  | .gap, _, [] => .ok []
  | .bare, word, [] => .ok [word]
  | .quote _, _, [] => .error .openQuote
  | .bareEscape, _, [] => .error .openEscape
  | .quoteEscape, _, [] => .error .openEscape
  | .gap, word, p :: rest =>
      if isSeparator p then splitFrom .gap word rest
      else if p == '\\' then splitFrom .bareEscape [] rest
      else if p == '\'' then splitFrom (.quote '\'') [] rest
      else if p == '"' then splitFrom (.quote '"') [] rest
      else splitFrom .bare [p] rest
  | .bare, word, p :: rest =>
      if isSeparator p then (word :: ·) <$> splitFrom .gap [] rest
      else if p == '\\' then splitFrom .bareEscape word rest
      else if p == '\'' then splitFrom (.quote '\'') word rest
      else if p == '"' then splitFrom (.quote '"') word rest
      else splitFrom .bare (word ++ [p]) rest
  | .quote mark, word, p :: rest =>
      if p == mark then splitFrom .bare word rest
      else if p == '\\' && mark == '"' then splitFrom .quoteEscape word rest
      else splitFrom (.quote mark) (word ++ [p]) rest
  | .bareEscape, word, p :: rest => splitFrom .bare (word ++ [p]) rest
  | .quoteEscape, word, p :: rest =>
      if p == '"' || p == '\\' then splitFrom (.quote '"') (word ++ [p]) rest
      else splitFrom (.quote '"') (word ++ [.char '\\', p]) rest

/-- The words of a command text. -/
def split (t : Wide) : Except Fault (List Wide) := splitFrom .gap [] t

end Runbook.Words
