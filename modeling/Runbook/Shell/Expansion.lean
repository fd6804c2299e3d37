import Runbook.Shell.Arithmetic
import Runbook.Shell.Pattern

set_option autoImplicit false

/-! # Expanding words

Before a command is run, its words become fields. The values of places are put in, values that
are not quoted are cut at separators, and a field that is a pattern becomes the names of the
files that it matches, if there are any. How a command in a place is run is a parameter here.
-/

namespace Runbook.Shell

/-- What a word has become when the values have been put in. -/
inductive Mark where
  | char (quoted : Bool) (c : Char)
  /-- A byte at which the field may be cut. -/
  | loose (c : Char)
  /-- The end of a field. -/
  | cut
  /-- The field is there even if it has no bytes. -/
  | present
  deriving DecidableEq, Repr

/-! ## Parameters -/

/-- The letters of all options, in the order in which they are shown. -/
def optionLetters : List Char :=
  ['u', 'b', 'a', 'C', 'E', 'V', 'v', 'x', 's', 'n', 'm', 'i', 'I', 'f', 'e']

/-- What stands between the arguments while they are put in together; no byte does. -/
def between : Char := Char.ofNat 256

/-- The characters at which values are cut. -/
def separators (p : Process) : Text := (p.value? "IFS").getD [' ', '\t', '\n']

/-- What stands between the arguments when they become one text. -/
def joint (p : Process) : Text := (separators p).take 1

/-- The value of a parameter. -/
def parameterValue? (p : Process) (name : Text) : Option Text :=
  match name with
  | ['#'] => some (Text.ofNat p.arguments.length)
  | ['?'] => some (Text.ofNat p.status)
  | ['$'] => some (Text.ofNat p.shell)
  | ['!'] => p.background.map Text.ofNat
  | ['-'] => some (optionLetters.filter p.has)
  | ['0'] => some p.name
  | ['@'] => some (Text.join [between] p.arguments)
  | ['*'] => some (Text.join [between] p.arguments)
  | c :: _ =>
      if c.isDigit then p.arguments[inBase 10 name - 1]?
      else if name == "LINENO".toList && (p.find? name).isNone then some (Text.ofNat p.line)
      else (p.find? name).bind (·.value)
  | [] => none

/-- The marks of a value that is put in. All the arguments are a field each, or one together if
they are quoted and asked for by an asterisk. -/
def valueMarks (p : Process) (quoted : Bool) (name t : Text) : List Mark :=
  if quoted then
    let next := fun (c : Char) =>
      if c != between then [Mark.char true c]
      else if name == ['*'] then (joint p).map (.char true)
      else [.cut, .present]
    .present :: t.flatMap next
  else t.map fun c => if c == between then .cut else .loose c

/-- The text of marks that are not cut into fields. -/
def markText (p : Process) (ms : List Mark) : Text :=
  ms.flatMap fun m =>
    match m with
    | .char _ c => [c]
    | .loose c => [c]
    | .cut => joint p
    | .present => []

/-- The bytes of marks, as a pattern reads them. -/
def glyphsOf (ms : List Mark) : List Glyph :=
  ms.filterMap fun m =>
    match m with
    | .char quoted c => some (quoted, c)
    | .loose c => some (false, c)
    | .cut => some (true, ' ')
    | .present => none

/-- Ends the shell because a parameter has no value. -/
def failUnset {α : Type} (name : Text) : Action α := fail (name ++ ": parameter not set".toList)

/-! ## Tildes -/

/-- The home directory that a tilde with a name behind it stands for. -/
def homeOf? (p : Process) (user : Text) : Option Text :=
  if user.isEmpty then p.value? "HOME"
  else if user == "root".toList then some "/root".toList
  else none

/-- The home directory that a tilde at the beginning of a word stands for, and how many characters
belong to the tilde. In an assignment the name behind the tilde ends at a colon too. -/
def tildeIn? (p : Process) (inAssignment : Bool) (w : Word) : Option (Text × Nat) :=
  match w with
  | .char false '~' :: rest =>
      let user := nameIn rest
      let ended :=
        match rest.drop user.length with
        | [] => true
        | .char false c :: _ => c == '/' || (inAssignment && c == ':')
        | _ => false
      if ended then (homeOf? p user).map (·, user.length + 1) else none
  | _ => none
where
  /-- The characters behind a tilde that may be a name. -/
  nameIn : Word → Text
    | .char false c :: rest =>
        if c == '/' || (inAssignment && c == ':') then [] else c :: nameIn rest
    | _ => []

/-- A word with the home directory in the place of a tilde at its beginning. -/
def expandTilde (p : Process) (inAssignment : Bool) (w : Word) : Word :=
  match tildeIn? p inAssignment w with
  | some (home, n) => home.map (.char true) ++ w.drop n
  | none => w

/-- The marks of a word, each character of which has one, with the home directory in the place of a
tilde at its beginning. -/
def homedMarks (p : Process) (w : Word) (ms : List Mark) : List Mark :=
  match tildeIn? p false w with
  | some (home, n) => home.map (.char true) ++ ms.drop n
  | none => ms

/-- A word with the home directories in the place of tildes at its beginning and behind unquoted
colons. -/
def expandTildes (p : Process) (w : Word) : Word :=
  expandTilde p true (w.foldr (fun part done =>
    match part with
    | .char false ':' => .char false ':' :: expandTilde p true done
    | part => part :: done) [])

/-! ## Places -/

mutual

/-- The marks of parts. Unquoted characters are loose if they stand inside a place. -/
def partsMarks (substitute : Command → Action Text) (inside : Bool) :
    List Part → Action (List Mark)
  | [] => return []
  | part :: rest => do
      let here ← partMarks substitute inside part
      return here ++ (← partsMarks substitute inside rest)

/-- The marks of a part, where `substitute` gives what a command prints. -/
def partMarks (substitute : Command → Action Text) (inside : Bool) : Part → Action (List Mark)
  | .char quoted c => return [if inside && !quoted then .loose c else .char quoted c]
  | .nothing => return [.present]
  | .unknown => fail "Bad substitution".toList
  | .command quoted body => do
      let t ← substitute body
      return valueMarks (← self) quoted [] ((t.reverse.dropWhile (· == '\n')).reverse)
  | .arithmetic quoted expression => do
      let ms ← partsMarks substitute false expression
      let n ← calculate (markText (← self) ms)
      return valueMarks (← self) quoted [] (Text.ofInt n)
  | .parameter quoted name form argument => do
      let p ← self
      let value := parameterValue? p name
      let shown := fun (p : Process) (t : Text) => valueMarks p quoted name t
      let homed := fun (ms : List Mark) => if quoted then ms else homedMarks p argument ms
      let needed := value.isNone && p.has 'u'
      let absent := fun (orEmpty : Bool) => value.isNone || (orEmpty && value == some [])
      match form with
      | .value =>
          if needed then failUnset name
          else if name == ['@'] && quoted && p.arguments.isEmpty then return []
          else return shown p (value.getD [])
      | .length =>
          if needed then failUnset name
          else return shown p (Text.ofNat (value.getD []).length)
      | .otherwise orEmpty =>
          if absent orEmpty then do
            let ms ← partsMarks substitute true argument
            let ms := homed ms
            return if quoted then .present :: ms else ms
          else return shown p (value.getD [])
      | .instead orEmpty =>
          if absent orEmpty then return shown p []
          else do
            let ms ← partsMarks substitute true argument
            let ms := homed ms
            return if quoted then .present :: ms else ms
      | .demand orEmpty =>
          if absent orEmpty then do
            let ms ← partsMarks substitute true argument
            let ms := homed ms
            let q ← self
            let unset := "parameter not set".toList ++ if orEmpty then " or null".toList else []
            let message := if argument.isEmpty then unset else markText q ms
            fail (name ++ ": ".toList ++ message)
          else return shown p (value.getD [])
      | .settle orEmpty =>
          if absent orEmpty then do
            let ms ← partsMarks substitute true argument
            let ms := homed ms
            let t := markText (← self) ms
            if !isName name then fail (name ++ ": bad variable name".toList)
            assign name t false
            return shown (← self) t
          else return shown p (value.getD [])
      | .withoutStart longest =>
          if needed then failUnset name
          else do
            let ms ← partsMarks substitute false argument
            let ms := homed ms
            return shown (← self) (withoutStart longest (patternOf (glyphsOf ms)) (value.getD []))
      | .withoutEnd longest =>
          if needed then failUnset name
          else do
            let ms ← partsMarks substitute false argument
            let ms := homed ms
            return shown (← self) (withoutEnd longest (patternOf (glyphsOf ms)) (value.getD []))

end

/-! ## Fields -/

/-- The fields of marks behind those already read. `current` is what has been read of a field,
the last byte first, `there` says whether there is a field, and `gap` whether a blank separator
has just ended one. A field is cut at blank separators together with one other. -/
def cutFields (blank other : Char → Bool) :
    List Mark → List Glyph → Bool → Bool → List (List Glyph)
  | [], current, there, _ => if there then [current.reverse] else []
  | .cut :: rest, current, there, _ =>
      let more := cutFields blank other rest [] false false
      if there then current.reverse :: more else more
  | .present :: rest, current, _, _ => cutFields blank other rest current true false
  | .char quoted c :: rest, current, _, _ =>
      cutFields blank other rest ((quoted, c) :: current) true false
  | .loose c :: rest, current, there, gap =>
      if blank c then
        if there then current.reverse :: cutFields blank other rest [] false true
        else cutFields blank other rest [] false gap
      else if other c then
        if !there && gap then cutFields blank other rest [] false false
        else current.reverse :: cutFields blank other rest [] false false
      else cutFields blank other rest ((false, c) :: current) true false

/-- The fields of marks. -/
def fieldsOf (p : Process) (ms : List Mark) : List (List Glyph) :=
  let isBlank := fun (c : Char) => c == ' ' || c == '\t' || c == '\n'
  let separates := fun (c : Char) => (separators p).contains c
  cutFields (fun c => isBlank c && separates c) (fun c => !isBlank c && separates c) ms [] false
    false

/-- The texts that a field becomes: the names of files, or itself. -/
def fieldTexts (s : State) (field : List Glyph) : List Text :=
  let pattern := patternOf field
  let found := if isPattern pattern && !s.process.has 'f' then filesMatching s pattern else []
  if found.isEmpty then [field.map (·.2)] else found

/-- The fields of a word. -/
def wordFields (substitute : Command → Action Text) (w : Word) : Action (List Text) := do
  let ms ← partsMarks substitute false (expandTilde (← self) false w)
  let s ← get
  return (fieldsOf s.process ms).flatMap (fieldTexts s)

/-- The fields of words. -/
def fields (substitute : Command → Action Text) : List Word → Action (List Text)
  | [] => return []
  | w :: rest => do
      let here ← wordFields substitute w
      return here ++ (← fields substitute rest)

/-- The text that a word becomes where it is not cut into fields. -/
def single (substitute : Command → Action Text) (w : Word) : Action Text := do
  let ms ← partsMarks substitute false (expandTilde (← self) false w)
  return markText (← self) ms

/-- The text that a word becomes as the value of an assignment. -/
def assigned (substitute : Command → Action Text) (w : Word) : Action Text := do
  let ms ← partsMarks substitute false (expandTildes (← self) w)
  return markText (← self) ms

/-- The pattern that a word becomes. -/
def patternFrom (substitute : Command → Action Text) (w : Word) : Action (List Piece) := do
  let ms ← partsMarks substitute false (expandTilde (← self) false w)
  return patternOf (glyphsOf ms)

end Runbook.Shell
