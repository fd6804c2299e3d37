import Runbook.Proofs.RecipeFile.Forms

set_option autoImplicit false

/-! # Lines by themselves

What a line of a recipe file is, told from its characters alone: indented or not, blank, a comment,
a setting, or the heading of a recipe. A line is *outer* when it is neither blank nor indented; the
outer lines are the comments, the settings and the headings. The form that the reader gives a line
agrees with all this, so that what is proved about forms can be said of the lines themselves.
-/

namespace Runbook

open Text

namespace Line

/-! ## Kinds of lines -/

/-- Whether a line begins with a space or a tab. -/
def isIndented (line : Text) : Bool := line.head? == some ' ' || line.head? == some '\t'

/-- Whether a line is neither blank nor indented, so that it ends the recipe above it. -/
def isOuter (line : Text) : Bool := !(trim line).isEmpty && !isIndented line

/-- Whether an outer line is a comment. -/
def isComment (line : Text) : Bool := line.head? == some '#'

/-- A line without the blanks at its end and without the comment that may stand there. -/
def directive (line : Text) : Text := stripComment (trimEnd line)

/-- The name and the value of a setting, where a line is one. -/
def setting? (line : Text) : Option (Text × Option Text) :=
  if isOuter line && !isComment line then readSetting (directive line) else none

/-- Whether a line heads a recipe: an outer line that is neither a comment nor a setting. -/
def isHeading (line : Text) : Bool := isOuter line && !isComment line && (setting? line).isNone

/-- The name of a setting, where a line is one. -/
def key? (line : Text) : Option Text := (setting? line).map (·.1)

/-- The name with which the heading of a recipe begins. -/
def headingName? (line : Text) : Option Text :=
  if isHeading line then (readName (directive line)).map (·.1) else none

/-- The entry that a line adds to the body of a recipe: the indented line without the blanks around
it, unless nothing is left or a `#` comes first. -/
def template? (line : Text) : Option Text :=
  if isIndented line && !(trim line).isEmpty && (trim line).head? != some '#' then some (trim line)
  else none

/-- The documentation that a line gives to a heading below it: what stands behind the `#` of a
comment that is not indented, unless that is blank. -/
def doc? : Text → Option Text
  | '#' :: rest => if (trim rest).isEmpty then none else some (trim rest)
  | _ => none

/-- A comment does not begin with a blank. -/
theorem isIndented_of_isComment {line : Text} (h : isComment line = true) :
    isIndented line = false := by
  have hhead : line.head? = some '#' := by simpa [isComment] using h
  simp [isIndented, hhead]

theorem isOuter_of_isComment {line : Text} (h : isComment line = true) : isOuter line = true := by
  have hhead : line.head? = some '#' := by simpa [isComment] using h
  have hne : trim line ≠ [] := by
    intro hnil
    have := (trim_eq_nil_iff line).mp hnil '#' (List.mem_of_mem_head? hhead)
    exact absurd this (by decide)
  simp [isOuter, isIndented_of_isComment h, hne]

theorem doc?_of_not_isComment {line : Text} (h : isComment line = false) : doc? line = none := by
  unfold doc?
  split
  · cases h
  · rfl

end Line

namespace LineForm

/-! ## The form of a line -/

/-- What is left of a line that is not blank begins as the line does. -/
theorem exists_trimEnd_eq_cons {c : Char} {t : Text} (h : trim (c :: t) ≠ []) :
    ∃ rest, trimEnd (c :: t) = c :: rest := by
  obtain ⟨b, _, hcut⟩ := exists_append_trimEnd (c :: t)
  have hne : trimEnd (c :: t) ≠ [] := by
    intro hnil
    exact h ((trim_eq_nil_iff _).mpr ((trimEnd_eq_nil_iff _).mp hnil))
  obtain ⟨d, rest, hrest⟩ := List.exists_cons_of_ne_nil hne
  rw [hrest, List.cons_append, List.cons.injEq] at hcut
  exact ⟨rest, by rw [hrest, hcut.1]⟩

/-- **The characters of a line decide its form.** -/
theorem of_eq (line : Text) : of line =
    if (trim line).isEmpty then blank
    else if Line.isIndented line then
      if (trim line).head? == some '#' then remark else entry (trim line)
    else if Line.isComment line then comment (Line.doc? line)
    else ofDirective (Line.directive line) := by
  by_cases hblank : trim line = []
  · rw [of_isBlankText ((trim_eq_nil_iff line).mp hblank), hblank]
    rfl
  cases line with
  | nil => exact absurd trim_nil hblank
  | cons c t =>
      obtain ⟨rest, hrest⟩ := exists_trimEnd_eq_cons hblank
      have htrim : trim (c :: rest) = trim (c :: t) := by rw [← hrest, trim_trimEnd]
      rw [if_neg (by simpa using hblank)]
      by_cases hindent : c = ' ' ∨ c = '\t'
      · have hbool : Line.isIndented (c :: t) = true := by simpa [Line.isIndented] using hindent
        unfold of
        rw [hrest]
        dsimp only
        rw [if_pos (by simpa using hindent), if_pos hbool]
        unfold ofIndented
        rw [htrim]
      · have hbool : Line.isIndented (c :: t) = false := by simpa [Line.isIndented] using hindent
        rw [hbool, if_neg (by simp)]
        by_cases hhash : c = '#'
        · subst hhash
          rw [of_hash]
          simp [Line.isComment, Line.doc?]
        · have hcomment : Line.isComment (c :: t) = false := by simpa [Line.isComment] using hhash
          rw [hcomment, if_neg (by simp)]
          unfold of Line.directive
          rw [hrest]
          dsimp only
          rw [if_neg (by simpa using hindent), if_neg (by simpa using hhash)]

/-! ## What a form tells of its line -/

/-- Whether a form is that of an outer line. -/
def isOuter : LineForm → Bool
  | comment _ => true
  | setting _ _ => true
  | header _ => true
  | _ => false

/-- The entry that a form adds to a body. -/
def template? : LineForm → Option Text
  | entry template => some template
  | _ => none

/-- The documentation that a form gives. -/
def doc? : LineForm → Option Text
  | comment doc => doc
  | _ => none

/-- The setting that a form is. -/
def setting? : LineForm → Option (Text × Option Text)
  | setting key value => some (key, value)
  | _ => none

/-- The header that a form is. -/
def header? : LineForm → Option Text
  | header line => some line
  | _ => none

variable (line : Text)

theorem isOuter_of : (of line).isOuter = Line.isOuter line := by
  rw [of_eq]
  unfold Line.isOuter
  split
  · next h => simp [h, isOuter]
  · next h =>
      split
      · next hindent =>
          split <;> simp [hindent, isOuter]
      · next hindent =>
          split
          · simp [h, hindent, isOuter]
          · unfold ofDirective
            split <;> simp [h, hindent, isOuter]

theorem template?_of : (of line).template? = Line.template? line := by
  rw [of_eq]
  unfold Line.template?
  split
  · next h => simp [h, template?]
  · next h =>
      split
      · next hindent =>
          split
          · next hhash =>
              have hhead : (trim line).head? = some '#' := by simpa using hhash
              simp [hhead, template?]
          · next hhash =>
              have hhead : (trim line).head? ≠ some '#' := by simpa using hhash
              have hne : trim line ≠ [] := by simpa using h
              simp [hne, hindent, hhead, template?]
      · next hindent =>
          split
          · simp [hindent, template?]
          · unfold ofDirective
            split <;> simp [hindent, template?]

theorem doc?_of : (of line).doc? = Line.doc? line := by
  by_cases hcomment : Line.isComment line = true
  · have houter := Line.isOuter_of_isComment hcomment
    have hindent := Line.isIndented_of_isComment hcomment
    have hne : (trim line).isEmpty = false := by
      simpa [Line.isOuter, hindent] using houter
    rw [of_eq, hne, hindent, hcomment]
    rfl
  · rw [Line.doc?_of_not_isComment (by simpa using hcomment), of_eq]
    split
    · rfl
    · split
      · split <;> rfl
      · unfold ofDirective
        split <;> rfl

/-- An outer line that is no comment is a setting or a header, without its comment. -/
theorem of_directive_eq (h : (Line.isOuter line && !Line.isComment line) = true) :
    of line = ofDirective (Line.directive line) := by
  simp only [Line.isOuter, Bool.and_eq_true, Bool.not_eq_true'] at h
  obtain ⟨⟨hne, hindent⟩, hcomment⟩ := h
  rw [of_eq, hne, hindent, hcomment]
  rfl

/-- Other lines are neither settings nor headers. -/
theorem of_not_directive (h : (Line.isOuter line && !Line.isComment line) = false) :
    (of line).setting? = none ∧ (of line).header? = none := by
  rw [of_eq]
  split
  · exact ⟨rfl, rfl⟩
  · next hne =>
      split
      · split
        · exact ⟨rfl, rfl⟩
        · exact ⟨rfl, rfl⟩
      · next hindent =>
          split
          · exact ⟨rfl, rfl⟩
          · next hcomment => simp [Line.isOuter, hne, hindent, hcomment] at h

theorem setting?_of : (of line).setting? = Line.setting? line := by
  unfold Line.setting?
  split
  · next h =>
      rw [of_directive_eq line h]
      unfold ofDirective
      split
      · next key value hread => rw [hread]; rfl
      · next hread => rw [hread]; rfl
  · next h => exact (of_not_directive line (by simpa using h)).1

theorem header?_of :
    (of line).header? = if Line.isHeading line then some (Line.directive line) else none := by
  unfold Line.isHeading Line.setting?
  cases h : (Line.isOuter line && !Line.isComment line) with
  | false => exact (of_not_directive line h).2
  | true =>
      rw [of_directive_eq line h]
      unfold ofDirective
      split
      · next key value hread => simp [hread, header?]
      · next hread => simp [hread, header?]

variable {line}

theorem of_eq_setting_iff {key : Text} {value : Option Text} :
    of line = .setting key value ↔ Line.setting? line = some (key, value) := by
  rw [← setting?_of]
  cases of line <;> simp [setting?]

theorem of_eq_header_iff {text : Text} :
    of line = .header text ↔ Line.isHeading line = true ∧ text = Line.directive line := by
  have hheader : of line = .header text ↔ (of line).header? = some text := by
    cases of line <;> simp [header?]
  rw [hheader, header?_of]
  cases Line.isHeading line <;> simp [eq_comm]

end LineForm

end Runbook
