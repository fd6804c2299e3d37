import Runbook.Text.Basic

set_option autoImplicit false

/-! # The shell language

The commands of the shell language and the words they are made of. A word is a list of parts:
characters, and places where a value is put in when the command is run. Quotation marks do not
belong to the word; they decide which parts are *quoted*. A quoted part is taken as it is: it is
neither cut into several fields nor matched against the names of files.

A shell handles bytes. Its texts hold each byte as the character of that number.
-/

namespace Runbook.Shell

/-- What is done with the value of a parameter. With `orEmpty` a value that is empty counts like
one that is not set. -/
inductive Form where
  | value
  | length
  /-- Another word stands in for a value that is not set. -/
  | otherwise (orEmpty : Bool)
  /-- The same, and the parameter is set to that word. -/
  | settle (orEmpty : Bool)
  /-- A value that is not set is an error with that word as its message. -/
  | demand (orEmpty : Bool)
  /-- Another word stands in for a value that is set. -/
  | instead (orEmpty : Bool)
  /-- Without a beginning that matches a pattern. -/
  | withoutStart (longest : Bool)
  /-- Without an end that matches a pattern. -/
  | withoutEnd (longest : Bool)
  deriving DecidableEq, Repr

/-- What a redirection does with its stream. -/
inductive Direction where
  | input
  | output
  /-- What is written comes behind what the file holds. -/
  | append
  /-- A file is written to even if files are protected. -/
  | override
  /-- The file is neither emptied nor required to be there. -/
  | both
  /-- It becomes a copy of another stream, or is closed. -/
  | copy
  /-- It reads the word itself. -/
  | inline
  deriving DecidableEq, Repr

mutual

/-- A part of a word. -/
inductive Part where
  | char (quoted : Bool) (c : Char)
  /-- Quotation marks with nothing between them. -/
  | nothing
  | parameter (quoted : Bool) (name : Text) (form : Form) (argument : List Part)
  /-- What a command prints. -/
  | command (quoted : Bool) (body : Command)
  /-- The value of an expression. -/
  | arithmetic (quoted : Bool) (expression : List Part)
  /-- A place that has none of the forms that there are. -/
  | unknown

/-- A redirection of a stream. -/
inductive Redirection where
  | mk (stream : Nat) (direction : Direction) (target : List Part)

/-- A command. `line` is the number of the line it begins on. -/
inductive Command where
  /-- Nothing to do. -/
  | skip
  | simple (line : Nat) (assignments : List (Text × List Part)) (words : List (List Part))
      (redirections : List Redirection)
  | pipe (first second : Command)
  | negation (c : Command)
  /-- The second command is run if the first one succeeds. -/
  | both (first second : Command)
  /-- The second command is run if the first one fails. -/
  | either (first second : Command)
  | sequence (first second : Command)
  | background (c : Command)
  | subshell (c : Command)
  | redirected (line : Nat) (c : Command) (redirections : List Redirection)
  | branch (condition yes no : Command)
  /-- The body is run as long as the condition succeeds, or fails for `expected = false`. -/
  | loop (expected : Bool) (condition body : Command)
  /-- The body is run for each of the fields. -/
  | each (line : Nat) (name : Text) (fields : List (List Part)) (body : Command)
  /-- The first case is run that has a pattern which the subject matches. -/
  | choice (line : Nat) (subject : List Part) (cases : List (List (List Part) × Command))
  | define (line : Nat) (name : Text) (body : Command)

end

/-- A word. -/
abbrev Word := List Part

namespace Redirection

/-- The number of the stream that is redirected. -/
def stream : Redirection → Nat
  | mk n _ _ => n

/-- What is done with the stream. -/
def direction : Redirection → Direction
  | mk _ d _ => d

/-- The word that says where the stream leads. -/
def target : Redirection → Word
  | mk _ _ w => w

end Redirection

instance : Inhabited Command := ⟨.skip⟩

/-! ## Names -/

/-- A character that begins the name of a variable. -/
def isNameStart (c : Char) : Bool := c.isAlpha || c == '_'

/-- A character that goes on with the name of a variable. -/
def isNameRest (c : Char) : Bool := isNameStart c || c.isDigit

/-- Whether a text is the name of a variable. -/
def isName : Text → Bool
  | [] => false
  | c :: rest => isNameStart c && rest.all isNameRest

/-- The parameters whose name is one character that is no letter. -/
def isSpecial (c : Char) : Bool :=
  c == '@' || c == '*' || c == '#' || c == '?' || c == '$' || c == '!' || c == '-'

/-- The commands of the shell itself whose failure ends it. Assignments before them stay, and no
function has their names. -/
def specialNames : List String := [".", ":", "break", "continue", "eval", "exec", "exit",
  "export", "local", "readonly", "return", "set", "shift", "times", "trap", "unset"]

/-- The characters of a word that has no quoted parts and no places. -/
def plain? : Word → Option Text
  | [] => some []
  | .char false c :: rest => (c :: ·) <$> plain? rest
  | _ => none

/-- The quoted characters of a text. -/
def quotedWord (t : Text) : Word := .nothing :: t.map (.char true)

end Runbook.Shell
