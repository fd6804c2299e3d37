import Runbook.Text.Basic

set_option autoImplicit false

/-! # Leading options

Options stand before the first word that is not one. An option either takes a value, given behind
an equals sign or as the next word, or is a switch. Reading stops at two hyphens, which are
passed over, at a single hyphen, at a word that begins with no hyphen, and at the end; the words
from there on are given back as they are.
-/

namespace Runbook

/-- An option that takes a value: the key it sets, the word it is written as, the value the key
has without it, and how its value is read. Several options may set one key. -/
structure ValueOption (ε α : Type) where
  key : Text
  flag : Text
  default : α
  read : Text → Except ε α

/-- A switch: the key it sets and the words it may be written as. -/
structure Switch where
  key : Text
  flags : List Text

/-- Why options cannot be read. -/
inductive OptionFault (ε : Type) where
  | unknown (word : Text)
  /-- An option that takes a value is the last word. -/
  | noValue (flag : Text)
  /-- The value of an option cannot be read. -/
  | badValue (cause : ε)
  deriving DecidableEq, Repr

/-- The fault in words, given those of a value's fault. -/
def OptionFault.message {ε : Type} (describe : ε → String) : OptionFault ε → String
  | .unknown word => "unknown option " ++ String.ofList word
  | .noValue flag => "option " ++ String.ofList flag ++ " requires a value"
  | .badValue cause => describe cause

/-- The value of a key: that of an option, or whether a switch is on. -/
inductive Setting (α : Type) where
  | value (a : α)
  | switch (on : Bool)
  deriving DecidableEq, Repr

/-- The values of keys, in the order in which the keys were first set. -/
abbrev Options (α : Type) := List (Text × Setting α)

namespace Options

variable {ε α : Type}

/-- The options with a key set: in place if it is there, at the end if not. -/
def put : Options α → Text → Setting α → Options α
  | [], key, v => [(key, v)]
  | (k, w) :: rest, key, v => if k == key then (k, v) :: rest else (k, w) :: put rest key v

/-- The value of a key. -/
def get? (o : Options α) (key : Text) : Option (Setting α) :=
  (o.find? (·.1 == key)).map (·.2)

/-- The options when no word is given: every value is the default, every switch is off. -/
def initial (options : List (ValueOption ε α)) (switches : List Switch) : Options α :=
  let values := options.foldl (fun o spec => put o spec.key (.value spec.default)) []
  switches.foldl (fun o s => put o s.key (.switch false)) values

/-- Whether a word stands where options end: it is a hyphen or begins with none. -/
def isOperand (word : Text) : Bool := word.head? != some '-' || word == ['-']

/-- What the words behind an option begin with: its value, if none is given inline. -/
def takeValue (spec : ValueOption ε α) (inline : Option Text) (rest : List Text) :
    Except (OptionFault ε) (Text × List Text) :=
  match inline with
  | some v => .ok (v, rest)
  | none =>
      match rest with
      | v :: more => .ok (v, more)
      | [] => .error (.noValue spec.flag)

/-- Taking a value takes words away or leaves them. -/
theorem takeValue_length {spec : ValueOption ε α} {inline : Option Text} {rest more : List Text}
    {v : Text} (h : takeValue spec inline rest = .ok (v, more)) : more.length ≤ rest.length := by
  cases inline <;> cases rest <;> simp [takeValue] at h <;> simp [← h.2]

/-- Reads the words before the first operand. -/
def readFrom (options : List (ValueOption ε α)) (switches : List Switch) (o : Options α) :
    List Text → Except (OptionFault ε) (Options α × List Text)
  | [] => .ok (o, [])
  | word :: rest =>
      if word == ['-', '-'] then .ok (o, rest)
      else if isOperand word then .ok (o, word :: rest)
      else
        match options.find? (·.flag == (Text.cutAt '=' word).1) with
        | some spec =>
            match _h : takeValue spec (Text.cutAt '=' word).2 rest with
            | .error fault => .error fault
            | .ok (v, more) =>
                match spec.read v with
                | .ok a => readFrom options switches (o.put spec.key (.value a)) more
                | .error cause => .error (.badValue cause)
        | none =>
            match switches.find? (·.flags.contains word) with
            | some s => readFrom options switches (o.put s.key (.switch true)) rest
            | none => .error (.unknown word)
termination_by words => words.length
decreasing_by
  · have := takeValue_length _h
    simp only [List.length_cons]
    omega
  · simp

/-- The options before the first operand, and the words from it on. -/
def read (options : List (ValueOption ε α)) (switches : List Switch) (words : List Text) :
    Except (OptionFault ε) (Options α × List Text) :=
  readFrom options switches (initial options switches) words

end Options

end Runbook
