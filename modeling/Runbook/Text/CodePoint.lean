import Runbook.Text.Quoted

set_option autoImplicit false

/-! # Code points

Some encodings write a character as a pair of *halves*, which have codes of their own but are no
characters. An escape in a settings document can name any code, so the texts of settings are
*wide* texts: lists of code points, each a character or a half. Halves are kept apart even where
two of them would make a character, and a message shows them by their code.
-/

namespace Runbook

/-- A character, or the half with the code `0xd800 + n`. -/
inductive CodePoint where
  | char (c : Char)
  | half (n : Fin 2048)
  deriving DecidableEq, Repr

namespace CodePoint

instance : Coe Char CodePoint := ⟨char⟩

/-- The number of a code point. -/
def code : CodePoint → Nat
  | char c => c.toNat
  | half n => 0xd800 + n

/-- The code point of a number, if it is not too large. -/
def ofCode? (n : Nat) : Option CodePoint :=
  if n.isValidChar then some (char (Char.ofNat n))
  else if h : n - 0xd800 < 2048 then some (half ⟨n - 0xd800, h⟩)
  else none

/-- The character that a code point is. -/
def char? : CodePoint → Option Char
  | char c => some c
  | half _ => none

end CodePoint

/-- A text that may hold halves. -/
abbrev Wide := List CodePoint

namespace Wide

/-- A text as a wide text. -/
def ofText (t : Text) : Wide := t.map .char

/-- The text that a wide text without halves is. -/
def text? (w : Wide) : Option Text := w.mapM CodePoint.char?

/-- The wide text with the replacement character in the place of every half. -/
def readable (w : Wide) : Text := w.map fun p => p.char?.getD '\ufffd'

/-- The mark that encloses the shown form of a wide text. -/
def enclosingQuote (w : Wide) : Char :=
  if w.contains '\'' && !w.contains '"' then '"' else '\''

/-- A code point as it stands between the quotes `q`. -/
def escape (q : Char) : CodePoint → Text
  | .char c => Text.escapeChar q c
  | .half n => '\\' :: 'u' :: Text.hexadecimal 4 (0xd800 + n)

/-- The shown form of a wide text. -/
def quoted (w : Wide) : Text :=
  let q := enclosingQuote w
  q :: w.flatMap (escape q) ++ [q]

/-- The strict dictionary order by code. -/
def before : Wide → Wide → Bool
  | [], [] => false
  | [], _ :: _ => true
  | _ :: _, [] => false
  | a :: as, b :: bs => if a == b then before as bs else decide (a.code < b.code)

@[simp] theorem text?_ofText (t : Text) : text? (ofText t) = some t := by
  induction t with
  | nil => rfl
  | cons c t ih =>
      simp only [ofText, text?, List.map_cons] at ih ⊢
      rw [List.mapM_cons, ih]
      rfl

end Wide

end Runbook
