import Runbook.Proofs.RecipeFile.Grammar

set_option autoImplicit false

/-! # Files of a single heading

A text of one line that is neither blank nor indented, and neither a comment nor a setting, is a
recipe file of one recipe, or it is refused at that line. The grammar of headers decides which: the
line, without the comment at its end, has to be a written header with its parameters in order.
Blanks at the end of the line change neither the comment, nor a setting, nor a header.
-/

namespace Runbook

open Text

/-! ## Blanks at the end -/

theorem beforeComment_of_isBlankText (open_ : Option Char) {b : Text} (hb : IsBlankText b) :
    beforeComment open_ b = none := by
  -- the mark that is open may be any character here, even a blank
  induction b generalizing open_ with
  | nil => rfl
  | cons c b ih =>
      have hrest : IsBlankText b := fun d hd => hb d (by simp [hd])
      have hne : ∀ {d : Char}, isBlank d = false → c ≠ d := by
        rintro d hd rfl
        rw [hb c (by simp)] at hd
        cases hd
      have hmark : c ≠ '"' ∧ c ≠ '\'' := ⟨hne rfl, hne rfl⟩
      have hquote : (c == '"' || c == '\'') = false := by simp [hmark]
      have hhash : (c == '#') = false := by simpa using hne (d := '#') rfl
      cases open_ with
      | none =>
          rw [beforeComment, hquote, hhash, ih none hrest]
          rfl
      | some q =>
          rw [beforeComment, ih _ hrest]
          rfl

/-- Blanks at the end hold no comment. -/
theorem beforeComment_append_blank (open_ : Option Char) (t : Text) {b : Text}
    (hb : IsBlankText b) : beforeComment open_ (t ++ b) = beforeComment open_ t := by
  induction t generalizing open_ with
  | nil => exact beforeComment_of_isBlankText open_ hb
  | cons c t ih => simp only [List.cons_append, beforeComment, ih]

/-- Comment and blanks may be cut off in either order. -/
theorem Line.directive_eq (line : Text) : directive line = trimEnd (stripComment line) := by
  obtain ⟨b, hb, hcut⟩ := exists_append_trimEnd line
  have hsame : beforeComment none line = beforeComment none (trimEnd line) := by
    have happend := beforeComment_append_blank none (trimEnd line) hb
    rwa [← hcut] at happend
  unfold directive stripComment
  rw [hsame]
  cases beforeComment none (trimEnd line) with
  | none => rfl
  | some kept => exact (trimEnd_trimEnd kept).symm

theorem readName_append_blank {t name after b : Text} (hb : IsBlankText b)
    (h : readName t = some (name, after)) : readName (t ++ b) = some (name, after ++ b) := by
  have hstop : ∀ c ∈ (after ++ b).head?, isNameRest c = false := by
    cases after with
    | nil => exact fun c hc => isNameRest_of_isBlank (hb c (List.mem_of_mem_head? hc))
    | cons d after =>
        have hhead := isNameRest_head_of_readName h
        exact hhead
  have hcut := readName_append h
  rw [hcut, List.append_assoc]
  exact readName_append_of_isName (isName_of_readName h) hstop

/-- Blanks behind a setting do not belong to it. -/
theorem readSetting_append_blank {t b key : Text} {value : Option Text} (hb : IsBlankText b)
    (h : readSetting t = some (key, value)) : readSetting (t ++ b) = some (key, value) := by
  obtain ⟨c, rest, after, rfl, hc, hkey, hafter⟩ := readSetting_eq_some_iff.mp h
  have hne : trimStart rest ≠ [] := by
    intro hnil
    rw [hnil] at hkey
    cases hkey
  have hkey' : readName (trimStart (rest ++ b)) = some (key, after ++ b) := by
    rw [trimStart_append hne]
    exact readName_append_blank hb hkey
  refine readSetting_eq_some_iff.mpr ⟨c, rest ++ b, after ++ b, rfl, hc, hkey', ?_⟩
  rcases hafter with ⟨hnil, hvalue⟩ | ⟨v, hassign, hvalue⟩
  · left
    refine ⟨?_, hvalue⟩
    rw [trimStart_append_of_blank (List.dropWhile_eq_nil_iff.mp hnil)]
    exact List.dropWhile_eq_nil_iff.mpr hb
  · right
    refine ⟨v ++ b, ?_, ?_⟩
    · rw [trimStart_append (by simp [hassign]), hassign]
      rfl
    · rw [hvalue, trim_append_blank v hb]

theorem readSetting_trimEnd_eq_none {t : Text} (h : readSetting t = none) :
    readSetting (trimEnd t) = none := by
  obtain ⟨b, hb, hcut⟩ := exists_append_trimEnd t
  cases hread : readSetting (trimEnd t) with
  | none => rfl
  | some setting =>
      have happend := readSetting_append_blank hb hread
      rw [← hcut, h] at happend
      cases happend

/-- Blanks at the end of a header do not change what it declares. -/
theorem declaration_trimEnd_eq_ok_iff {t name : Text} {ps : List Parameter} :
    declaration (trimEnd t) = .ok (name, ps) ↔ declaration t = .ok (name, ps) := by
  constructor
  · intro h
    obtain ⟨w, htext, rfl, rfl, hord⟩ := declaration_eq_ok_iff_written.mp h
    obtain ⟨b, hb, hcut⟩ := exists_append_trimEnd t
    -- the blanks that were cut off belong behind the colon
    have hblank : IsBlankText (w.behind ++ b) := List.forall_mem_append.mpr ⟨w.blank_behind, hb⟩
    let w' : WrittenHeader := { w with behind := w.behind ++ b, blank_behind := hblank }
    have htext' : w'.text = t := by
      rw [hcut, ← htext]
      simp [w', WrittenHeader.text]
    exact declaration_eq_ok_iff_written.mpr ⟨w', htext', rfl, rfl, hord⟩
  · intro h
    obtain ⟨w, rfl, rfl, rfl, hord⟩ := declaration_eq_ok_iff_written.mp h
    exact declaration_of_spells w.spells.trimEnd hord

/-- What a heading declares is written in the line as it stands, up to the comment. -/
theorem declaration_directive_eq_ok_iff {line name : Text} {ps : List Parameter} :
    declaration (Line.directive line) = .ok (name, ps) ↔
      ∃ w : WrittenHeader, w.text = stripComment line ∧ w.name = name ∧ w.declared = ps ∧
        OrderedParameters ps := by
  rw [Line.directive_eq, declaration_trimEnd_eq_ok_iff, declaration_eq_ok_iff_written]

/-! ## Loading a heading -/

namespace Registry

variable {line : Text}

/-- A text of one line is loaded by reading this line. -/
theorem load_of_isLine (hline : IsLine line) (hne : line ≠ []) :
    load line = ofProgress (Progress.accept {} 1 (LineForm.of line) >>= Progress.finish) := by
  rw [load_eq, lines_of_isLine hline, if_neg hne]
  unfold Progress.ofLines
  rw [Progress.readLines_cons, Progress.readLine]
  cases Progress.accept {} 1 (LineForm.of line) with
  | error fault => rfl
  | ok s => rfl

/-- A heading by itself is loaded as the recipe that it declares. -/
theorem load_of_header {text : Text} (hline : IsLine line)
    (hform : LineForm.of line = .header text) :
    load line = match declaration text with
      | .ok (name, parameters) => .ok { recipes := [{ name, parameters, line := 1 }] }
      | .error fault => .error (.malformed none (.atLine 1 fault)) := by
  have hne : line ≠ [] := by
    rintro rfl
    cases hform
  rw [load_of_isLine hline hne, hform]
  -- before the first line there is no recipe to complete, and none that has the name already
  show ofProgress (Progress.readRecipe 1 text {} >>= Progress.finish) = _
  unfold Progress.readRecipe
  cases declaration text with
  | error fault => rfl
  | ok declared => rfl

/-- **A heading is accepted exactly by the grammar of headers.** A line that is neither blank nor
indented, and neither a comment nor a setting, is a recipe file exactly when it is, up to its
comment, a written header with its parameters in order. It is a written header in one way only; the
recipe has the name and the parameters that are written there, and without such a header the line is
refused. -/
theorem load_reads_written_header (hline : IsLine line) (hblank : trim line ≠ [])
    (hspace : line.head? ≠ some ' ') (htab : line.head? ≠ some '\t')
    (hhash : line.head? ≠ some '#') (hset : readSetting (stripComment line) = none) :
    ((∃ reg, load line = .ok reg) ↔
      ∃ w : WrittenHeader, w.text = stripComment line ∧ OrderedParameters w.declared) ∧
    (∀ w w' : WrittenHeader, w.text = stripComment line → w'.text = stripComment line → w = w') ∧
    (∀ w : WrittenHeader, w.text = stripComment line → OrderedParameters w.declared →
      load line = .ok { recipes := [{ name := w.name, parameters := w.declared, line := 1 }] }) ∧
    ((¬ ∃ w : WrittenHeader, w.text = stripComment line ∧ OrderedParameters w.declared) →
      ∃ fault, load line = .error (.malformed none (.atLine 1 fault))) := by
  have hdirective := readSetting_trimEnd_eq_none hset
  rw [← Line.directive_eq] at hdirective
  have hheading : Line.isHeading line = true := by
    simp [Line.isHeading, Line.isOuter, Line.isIndented, Line.isComment, Line.setting?, hblank,
      hspace, htab, hhash, hdirective]
  have hload := load_of_header hline (LineForm.of_eq_header_iff.mpr ⟨hheading, rfl⟩)
  have hok : ∀ w : WrittenHeader, w.text = stripComment line → OrderedParameters w.declared →
      load line = .ok { recipes := [{ name := w.name, parameters := w.declared, line := 1 }] } := by
    intro w htext hord
    rw [hload, declaration_directive_eq_ok_iff.mpr ⟨w, htext, rfl, rfl, hord⟩]
  have herror : (¬ ∃ w : WrittenHeader, w.text = stripComment line ∧
      OrderedParameters w.declared) →
      ∃ fault, load line = .error (.malformed none (.atLine 1 fault)) := by
    intro hnone
    cases hresult : declaration (Line.directive line) with
    | error fault => exact ⟨fault, by rw [hload, hresult]⟩
    | ok declared =>
        obtain ⟨name, ps⟩ := declared
        obtain ⟨w, htext, _, rfl, hord⟩ := declaration_directive_eq_ok_iff.mp hresult
        exact absurd ⟨w, htext, hord⟩ hnone
  refine ⟨⟨?_, ?_⟩, ?_, hok, herror⟩
  · rintro ⟨reg, hreg⟩
    by_contra hnone
    obtain ⟨fault, hfault⟩ := herror hnone
    rw [hreg] at hfault
    cases hfault
  · rintro ⟨w, htext, hord⟩
    exact ⟨_, hok w htext hord⟩
  · intro w w' h h'
    exact WrittenHeader.eq_of_text (h.trans h'.symm)

/-- The theorem at a recipe whose name is the word that settings begin with: a `#` stands in a default,
a tab before the star of the last parameter, and a comment with quotation marks behind the colon. -/
theorem load_reads_written_header_set :
    let line := "set x=\"#\"\t*v :  # no \"setting\"".toList
    let x : WrittenParameter :=
      { blanks := [' '], variadic := false, name := ['x']
        default := some ⟨'"', ['#'], by decide, by decide⟩
        blank := by simp [IsBlankText, isBlank], apart := by decide, named := rfl }
    let v : WrittenParameter :=
      { blanks := ['\t'], variadic := true, name := ['v'], default := none
        blank := by simp [IsBlankText, isBlank], apart := by decide, named := rfl }
    let w : WrittenHeader :=
      { name := "set".toList, parameters := [x, v], before := [' '], behind := []
        named := rfl, blank_before := isBlankText_space, blank_behind := isBlankText_nil }
    w.text = stripComment line ∧
      load line = .ok { recipes := [{ name := "set".toList
                                      parameters := [⟨['x'], some ['#'], false⟩, ⟨['v'], none, true⟩]
                                      line := 1 }] } := by
  intro line x v w
  have htext : w.text = stripComment line := by decide +kernel
  have hord : OrderedParameters w.declared := by decide +kernel
  have hline : IsLine line := by decide +kernel
  have hset : readSetting (stripComment line) = none := by decide +kernel
  have hread := load_reads_written_header hline (by decide +kernel) (by decide +kernel)
    (by decide +kernel) (by decide +kernel) hset
  exact ⟨htext, hread.2.2.1 w htext hord⟩

end Registry

end Runbook
