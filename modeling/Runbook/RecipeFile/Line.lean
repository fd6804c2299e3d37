import Runbook.Recipe.Basic

set_option autoImplicit false

/-! # The lines of a recipe file

What can stand on a line of a recipe file that is not indented: the header of a recipe, or a
setting. Each reader takes a text and gives what it has read together with the rest, or `none`.

* A header is a name, parameters that each follow a blank, and a colon. A parameter is a name,
  with a star before it if it is variadic, and `=` and a quoted text after it if it has a default.
* A setting is the word `set`, a name, and possibly `:=` and a value that runs to the end.
* The value of the setting `shell` is a list of quoted texts in brackets.

A quoted text stands between two apostrophes or two quotation marks and holds no mark of its own
kind; nothing is escaped. A `#` outside quoted texts begins a comment.
-/

namespace Runbook

/-! ## Comments -/

/-- The part of a line before its comment, if it has one; `open_` is the mark of the quoted text
that the line begins in. -/
def beforeComment (open_ : Option Char) : Text → Option Text
  | [] => none
  | c :: rest =>
      match open_ with
      | some q => (c :: ·) <$> beforeComment (if c == q then none else some q) rest
      | none =>
          if c == '"' || c == '\'' then (c :: ·) <$> beforeComment (some c) rest
          else if c == '#' then some []
          else (c :: ·) <$> beforeComment none rest

/-- The line without its comment and the blanks before the comment. A line without a comment is
left as it is. -/
def stripComment (line : Text) : Text :=
  match beforeComment none line with
  | some kept => Text.trimEnd kept
  | none => line

/-! ## Quoted texts -/

/-- The content of the quoted text at the start. -/
def readQuoted : Text → Option (Text × Text)
  | [] => none
  | q :: rest =>
      if q == '"' || q == '\'' then
        match Text.cutAt q rest with
        | (content, some after) => some (content, after)
        | (_, none) => none
      else none

theorem readQuoted_lt {t content after : Text} (h : readQuoted t = some (content, after)) :
    after.length < t.length := by
  cases t with
  | nil => simp [readQuoted] at h
  | cons q t =>
      simp only [readQuoted] at h
      split at h
      · split at h
        · next c a hc =>
            simp only [Option.some.injEq, Prod.mk.injEq] at h
            have := Text.cutAt_lt hc
            simp only [List.length_cons]
            rw [← h.2]
            omega
        · cases h
      · cases h

/-! ## Headers -/

/-- The default at the start: `=` and a quoted text. -/
def readDefault : Text → Option (Text × Text)
  | '=' :: rest => readQuoted rest
  | _ => none

/-- The star that may stand before a parameter. -/
def readStar : Text → Bool × Text
  | '*' :: rest => (true, rest)
  | t => (false, t)

/-- The parameter at the start, with the blanks before it. An `=` that no quoted text follows is
not part of it. -/
def readParameter : Text → Option (Parameter × Text)
  | [] => none
  | c :: rest =>
      if Text.isBlank c then
        let (star, t) := readStar (Text.trimStart rest)
        match readName t with
        | some (name, after) =>
            match readDefault after with
            | some (default, after) => some (⟨name, some default, star⟩, after)
            | none => some (⟨name, none, star⟩, after)
        | none => none
      else none

theorem length_readStar_le (t : Text) : (readStar t).2.length ≤ t.length := by
  unfold readStar
  split <;> simp

/-- A parameter takes at least one character. -/
theorem readParameter_lt {t after : Text} {p : Parameter}
    (h : readParameter t = some (p, after)) : after.length < t.length := by
  cases t with
  | nil => simp [readParameter] at h
  | cons c t =>
      simp only [readParameter] at h
      split at h
      · have h1 := Text.length_trimStart_le t
        have h2 := length_readStar_le (Text.trimStart t)
        split at h
        · next name rest hn =>
            have h3 := congrArg List.length (readName_append hn)
            simp only [List.length_append] at h3
            split at h
            · next d rest' hd =>
                simp only [Option.some.injEq, Prod.mk.injEq] at h
                obtain ⟨_, rfl⟩ := h
                have h4 : rest'.length < rest.length := by
                  unfold readDefault at hd
                  split at hd
                  · have := readQuoted_lt hd
                    simp only [List.length_cons]
                    omega
                  · cases hd
                simp only [List.length_cons]
                omega
            · simp only [Option.some.injEq, Prod.mk.injEq] at h
              obtain ⟨_, rfl⟩ := h
              simp only [List.length_cons]
              omega
        · cases h
      · cases h

/-- The parameters at the start, as many as there are. -/
def readParameters (t : Text) : List Parameter × Text :=
  match _h : readParameter t with
  | some (p, after) =>
      let (ps, rest) := readParameters after
      (p :: ps, rest)
  | none => ([], t)
termination_by t.length
decreasing_by exact readParameter_lt _h

/-- The name and the parameters at the start of a header, and what follows them. -/
def readHeader (line : Text) : Option (Text × List Parameter × Text) :=
  (readName line).map fun (name, rest) => (name, readParameters rest)

/-! ## Settings -/

/-- The name and the value of a setting. The blanks around the value are not part of it. -/
def readSetting : Text → Option (Text × Option Text)
  | 's' :: 'e' :: 't' :: c :: rest =>
      if Text.isBlank c then
        match readName (Text.trimStart rest) with
        | some (key, after) =>
            match Text.trimStart after with
            | [] => some (key, none)
            | ':' :: '=' :: value => some (key, some (Text.trim value))
            | _ => none
        | none => none
      else none
  | _ => none

/-- The quoted texts up to the closing bracket, separated by commas; a comma may stand behind
the last one. -/
def readItems (t : Text) : Option (List Text) :=
  if t == [']'] then some []
  else
    match _h : readQuoted t with
    | some (item, after) =>
        match _h' : Text.trimStart after with
        | [']'] => some [item]
        | ',' :: rest => (item :: ·) <$> readItems (Text.trimStart rest)
        | _ => none
    | none => none
termination_by t.length
decreasing_by
  have h1 := readQuoted_lt _h
  have h2 := Text.length_trimStart_le after
  have h3 := Text.length_trimStart_le rest
  rw [_h'] at h2
  simp only [List.length_cons] at h2
  omega

/-- The list of quoted texts that a value is. -/
def readList : Text → Option (List Text)
  | '[' :: rest => readItems (Text.trimStart rest)
  | _ => none

end Runbook
