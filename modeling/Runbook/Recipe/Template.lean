import Runbook.Text.Basic

set_option autoImplicit false

/-! # Identifiers and placeholders

Names of recipes, parameters and settings are *identifiers*: a letter or an underscore of ASCII,
then letters, digits, underscores and hyphens.

A line of a recipe is a template. A *placeholder* is two opening braces, blanks, an identifier,
blanks, and two closing braces. Reading a template from the left, `pieces` cuts it into single
characters and placeholders; a placeholder that begins further left takes its characters first.
Putting the pieces' sources together again gives the template back.
-/

namespace Runbook

/-! ## Identifiers -/

/-- The characters an identifier may begin with. -/
def isNameStart (c : Char) : Bool :=
  ('a' ≤ c && c ≤ 'z') || ('A' ≤ c && c ≤ 'Z') || c == '_'

/-- The characters an identifier may go on with. -/
def isNameRest (c : Char) : Bool := isNameStart c || ('0' ≤ c && c ≤ '9') || c == '-'

/-- Whether a text is an identifier. -/
def isName : Text → Bool
  | [] => false
  | c :: rest => isNameStart c && rest.all isNameRest

/-- The longest identifier a text begins with, and what follows it. -/
def readName : Text → Option (Text × Text)
  | [] => none
  | c :: rest =>
      if isNameStart c then some (c :: rest.takeWhile isNameRest, rest.dropWhile isNameRest)
      else none

/-- An identifier and what follows it make up the text. -/
theorem readName_append {t name rest : Text} (h : readName t = some (name, rest)) :
    t = name ++ rest := by
  cases t with
  | nil => simp [readName] at h
  | cons c t =>
      simp only [readName] at h
      split at h
      · simp only [Option.some.injEq, Prod.mk.injEq] at h
        obtain ⟨rfl, rfl⟩ := h
        simp [List.takeWhile_append_dropWhile]
      · cases h

/-! ## Placeholders -/

/-- A placeholder at the start of a text: its source, its name, and what follows it. -/
def readPlaceholder (t : Text) : Option (Text × Text × Text) :=
  match t with
  | '{' :: '{' :: inner =>
      match readName (Text.trimStart inner) with
      | some (name, after) =>
          match Text.trimStart after with
          | '}' :: '}' :: rest => some (t.take (t.length - rest.length), name, rest)
          | _ => none
      | none => none
  | _ => none

/-- A placeholder takes at least one character. -/
theorem readPlaceholder_lt {t source name rest : Text}
    (h : readPlaceholder t = some (source, name, rest)) : rest.length < t.length := by
  unfold readPlaceholder at h
  split at h
  · next inner =>
      split at h
      · next nm after hn =>
          split at h
          · next rest' ht =>
              simp only [Option.some.injEq, Prod.mk.injEq] at h
              obtain ⟨_, _, rfl⟩ := h
              have h1 := congrArg List.length (readName_append hn)
              have h2 := Text.length_trimStart_le inner
              have h3 := Text.length_trimStart_le after
              rw [ht] at h3
              simp only [List.length_append, List.length_cons] at h1 h3 ⊢
              omega
          · cases h
      · cases h
  · cases h

/-- A piece of a template. -/
inductive Piece where
  /-- A character that stands for itself. -/
  | literal (c : Char)
  /-- A placeholder, with the characters that write it. -/
  | hole (source name : Text)
  deriving DecidableEq, Repr

/-- The pieces of a template. -/
def pieces : Text → List Piece
  | [] => []
  | c :: t =>
      match _h : readPlaceholder (c :: t) with
      | some (source, name, rest) => .hole source name :: pieces rest
      | none => .literal c :: pieces t
termination_by t => t.length
decreasing_by
  · exact readPlaceholder_lt _h
  · simp

/-- The characters that write a piece. -/
def Piece.source : Piece → Text
  | .literal c => [c]
  | .hole source _ => source

/-- The name of a placeholder. -/
def Piece.name? : Piece → Option Text
  | .literal _ => none
  | .hole _ name => some name

/-- The names of the placeholders of a template, from left to right. -/
def placeholderNames (t : Text) : List Text := (pieces t).filterMap Piece.name?

end Runbook
