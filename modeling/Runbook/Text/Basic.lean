set_option autoImplicit false

/-! # Text

Text is a list of characters throughout the library; `String` appears where a message is put
together and at the outer edge. This file fixes the two character classes that the recipe-file
format is stated in, *blank* characters and *line breaks*, and the operations that depend on
them: trimming, and cutting a text into lines. Every line break is blank.
-/

namespace Runbook

/-- A text: its characters in order. -/
abbrev Text := List Char

namespace Text

/-! ## Character classes -/

/-- White space: the blanks of ASCII, the separators `U+001C` to `U+001F`, and the characters
that Unicode gives the property *White_Space*. -/
def isBlank (c : Char) : Bool :=
  c == ' ' || (0x09 ≤ c.toNat && c.toNat ≤ 0x0d) || (0x1c ≤ c.toNat && c.toNat ≤ 0x1f) ||
    c == '\x85' || c == '\xa0' || c == '\u1680' || (0x2000 ≤ c.toNat && c.toNat ≤ 0x200a) ||
    c == '\u2028' || c == '\u2029' || c == '\u202f' || c == '\u205f' || c == '\u3000'

/-- The characters that end a line. A carriage return directly before a line feed ends the
line together with it. -/
def isBreak (c : Char) : Bool :=
  c == '\n' || c == '\r' || c == '\x0b' || c == '\x0c' ||
    (0x1c ≤ c.toNat && c.toNat ≤ 0x1e) || c == '\x85' || c == '\u2028' || c == '\u2029'

/-! ## Trimming -/

/-- The text without its leading blanks. -/
def trimStart (t : Text) : Text := t.dropWhile isBlank

/-- The text without its trailing blanks. -/
def trimEnd (t : Text) : Text := (t.reverse.dropWhile isBlank).reverse

/-- The text without its leading and trailing blanks. -/
def trim (t : Text) : Text := trimEnd (trimStart t)

@[simp] theorem trimStart_nil : trimStart [] = [] := rfl

@[simp] theorem trimEnd_nil : trimEnd [] = [] := rfl

@[simp] theorem trim_nil : trim [] = [] := rfl

theorem trimStart_cons (c : Char) (t : Text) :
    trimStart (c :: t) = if isBlank c then trimStart t else c :: t := by
  unfold trimStart
  rw [List.dropWhile_cons]

/-- Cutting blanks off the front never lengthens a text. -/
theorem length_trimStart_le (t : Text) : (trimStart t).length ≤ t.length := by
  induction t with
  | nil => simp
  | cons c t ih =>
      rw [trimStart_cons]
      split
      · simp only [List.length_cons]; omega
      · simp

/-! ## Lines -/

/-- The lines of a text, without the breaks that end them. A break at the very end starts no
further line, so the empty text has no line at all. -/
def lines : Text → List Text
  | [] => []
  | '\r' :: '\n' :: rest => [] :: lines rest
  | c :: rest =>
      if isBreak c then [] :: lines rest
      else
        match lines rest with
        | [] => [[c]]
        | line :: more => (c :: line) :: more

/-- Lines joined by line feeds, none at the end. -/
def unlines (ls : List Text) : Text := List.intercalate ['\n'] ls

/-- Lines each ended by a line feed. -/
def terminated (ls : List Text) : Text := ls.flatMap (· ++ ['\n'])

/-- A character that is no break is put in front of the first line. -/
theorem lines_cons {c : Char} (h : isBreak c = false) (t : Text) :
    lines (c :: t) =
      match lines t with
      | [] => [[c]]
      | line :: more => (c :: line) :: more := by
  have hr : c ≠ '\r' := by
    rintro rfl
    exact absurd h (by decide)
  rw [lines.eq_def]
  split
  · next heq => cases heq
  · next heq =>
      cases heq
      exact absurd rfl hr
  · next heq =>
      cases heq
      simp [h]

/-- A line feed ends the line of characters that are no breaks. -/
theorem lines_append_newline {line : Text} (h : ∀ c ∈ line, isBreak c = false) (rest : Text) :
    lines (line ++ '\n' :: rest) = line :: lines rest := by
  induction line with
  | nil => simp [lines, isBreak]
  | cons c line ih =>
      rw [List.cons_append, lines_cons (h c (by simp)), ih fun d hd => h d (by simp [hd])]

/-- Lines that hold no breaks are read back. -/
theorem lines_terminated {ls : List Text} (h : ∀ line ∈ ls, ∀ c ∈ line, isBreak c = false) :
    lines (terminated ls) = ls := by
  induction ls with
  | nil => rfl
  | cons line ls ih =>
      simp only [terminated, List.flatMap_cons, List.append_assoc, List.singleton_append]
      rw [lines_append_newline (h line (by simp))]
      congr 1
      exact ih fun l hl => h l (by simp [hl])

/-- Line ends written as a carriage return, alone or before a line feed, become line feeds. -/
def foldLineEnds : Text → Text
  | [] => []
  | '\r' :: '\n' :: rest => '\n' :: foldLineEnds rest
  | c :: rest => (if c == '\r' then '\n' else c) :: foldLineEnds rest

/-! ## Assembling -/

/-- The texts put together with `sep` between neighbours. -/
def join (sep : Text) (ts : List Text) : Text := List.intercalate sep ts

/-- The text with blanks added on the right up to `width` characters. -/
def padEnd (width : Nat) (t : Text) : Text := t ++ List.replicate (width - t.length) ' '

/-- The decimal numeral of a natural number. -/
def ofNat (n : Nat) : Text := Nat.toDigits 10 n

/-- The decimal numeral of an integer, a minus sign before a negative one. -/
def ofInt : Int → Text
  | .ofNat n => ofNat n
  | .negSucc n => '-' :: ofNat (n + 1)

/-- How many digits an integer may have that is read or written in base ten. -/
def digitLimit : Nat := 4300

/-- Whether an integer is short enough to be written in base ten. -/
def isWritable (n : Int) : Bool := n.natAbs < Nat.pow 10 digitLimit

/-- What precedes the first occurrence of `c`, and what follows it if `c` occurs. -/
def cutAt (c : Char) : Text → Text × Option Text
  | [] => ([], none)
  | x :: rest => if x == c then ([], some rest) else (x :: (cutAt c rest).1, (cutAt c rest).2)

/-- What follows the first occurrence of `c` is shorter than the text. -/
theorem cutAt_lt {c : Char} {t before after : Text} (h : cutAt c t = (before, some after)) :
    after.length < t.length := by
  induction t generalizing before with
  | nil => simp [cutAt] at h
  | cons x t ih =>
      simp only [cutAt] at h
      split at h
      · simp only [Prod.mk.injEq, Option.some.injEq] at h
        simp [h.2]
      · simp only [Prod.mk.injEq] at h
        have hrest : cutAt c t = ((cutAt c t).1, some after) := by rw [← h.2]
        have := ih hrest
        simp only [List.length_cons]
        omega

/-- The text between grave accents, as messages name things. -/
def ticked (t : Text) : String := "`" ++ String.ofList t ++ "`"

/-- The strict dictionary order by code point. -/
def before : Text → Text → Bool
  | [], [] => false
  | [], _ :: _ => true
  | _ :: _, [] => false
  | a :: as, b :: bs =>
      if a == b then before as bs else decide (a.toNat < b.toNat)

end Text

end Runbook
