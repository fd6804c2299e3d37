import Runbook.Proofs.RecipeFile.Heading
import Runbook.Proofs.RecipeFile.RoundTrip

set_option autoImplicit false

/-! # The grammar of lists

A list of quoted texts stands in brackets: among blanks, a comma stands between neighbours and may
stand behind the last one. A *written* list keeps all its parts, so that it is a derivation of its
text. The reader of lists accepts exactly the texts of written lists, and of the empty list, and
gives the contents of the quoted texts. Looking for quoted texts from left to right, whatever stands
between them, finds the same: no content can hide a mark from the one and show it to the other. A
text of one line that gives a shell is therefore a recipe file exactly when its value is a written
list that names a command.
-/

namespace Runbook

open Text

/-! ## What is read as a list is written -/

/-- What is read as a quoted text is quoted. -/
theorem exists_quotes_of_readQuoted {t content after : Text}
    (h : readQuoted t = some (content, after)) : ∃ q, Quotes content q ∧ t = q ++ after := by
  obtain ⟨q, rfl, rfl⟩ := WrittenQuote.exists_of_readQuoted h
  exact ⟨q.text, q.quotes, rfl⟩

theorem spellsItems_of_readItems {t : Text} {items : List Text} (h : readItems t = some items) :
    SpellsItems items t := by
  fun_induction readItems t generalizing items with
  | case1 t hbracket =>
      cases h
      rw [beq_iff_eq.mp hbracket]
      exact SpellsItems.nil
  | case2 t hbracket item after hquoted hend =>
      cases h
      obtain ⟨q, hq, rfl⟩ := exists_quotes_of_readQuoted hquoted
      obtain ⟨b, hb, hcut⟩ := exists_append_trimStart after
      rw [hcut, hend]
      exact SpellsItems.last hq hb
  | case3 t hbracket item after hquoted rest hcomma ih =>
      obtain ⟨more, hmore, rfl⟩ := Option.map_eq_some_iff.mp h
      obtain ⟨q, hq, rfl⟩ := exists_quotes_of_readQuoted hquoted
      obtain ⟨b, hb, hcut⟩ := exists_append_trimStart after
      obtain ⟨b', hb', hcut'⟩ := exists_append_trimStart rest
      rw [hcut, hcomma, hcut']
      exact SpellsItems.cons hq hb hb' (ih hmore)
  | case4 => cases h
  | case5 => cases h

/-- **A text is read as a list exactly when it is written as one.** -/
theorem readList_eq_some_iff {t : Text} {items : List Text} :
    readList t = some items ↔ SpellsList items t := by
  constructor
  · intro h
    unfold readList at h
    split at h
    · next rest =>
        obtain ⟨b, hb, hcut⟩ := exists_append_trimStart rest
        rw [hcut]
        exact SpellsList.intro hb (spellsItems_of_readItems h)
    · cases h
  · exact readList_of_spells

/-! ## Looking for quoted texts -/

/-- The contents of the quoted texts of a text, found one after the other from the left. A mark
that is never closed quotes nothing. -/
def quotedTexts : Text → List Text
  | [] => []
  | c :: t =>
      match _h : readQuoted (c :: t) with
      | some (content, after) => content :: quotedTexts after
      | none => quotedTexts t
termination_by t => t.length
decreasing_by
  · exact readQuoted_lt _h
  · simp

/-- Characters that are no marks are passed over. -/
theorem quotedTexts_append_of_no_mark {b : Text} (h : ∀ c ∈ b, c ≠ '"' ∧ c ≠ '\'') (rest : Text) :
    quotedTexts (b ++ rest) = quotedTexts rest := by
  induction b with
  | nil => rfl
  | cons c b ih =>
      have hc := h c (by simp)
      have hread : readQuoted (c :: (b ++ rest)) = none := by
        rw [readQuoted, if_neg (by simp [hc])]
      rw [List.cons_append, quotedTexts]
      split
      · next hsome =>
          rw [hread] at hsome
          cases hsome
      · exact ih fun d hd => h d (by simp [hd])

/-- A quoted text is found, and what follows it is looked through by itself. -/
theorem quotedTexts_append_of_quotes {content q : Text} (h : Quotes content q) (rest : Text) :
    quotedTexts (q ++ rest) = content :: quotedTexts rest := by
  have hread := readQuoted_append h rest
  obtain ⟨mark, more, rfl, _⟩ := exists_cons_of_quotes h
  rw [List.cons_append] at hread ⊢
  rw [quotedTexts]
  split
  · next hsome =>
      rw [hread] at hsome
      cases hsome
      rfl
  · next hnone =>
      rw [hread] at hnone
      cases hnone

theorem quotedTexts_append_of_isBlankText {b : Text} (hb : IsBlankText b) (rest : Text) :
    quotedTexts (b ++ rest) = quotedTexts rest := by
  refine quotedTexts_append_of_no_mark (fun c hc => ⟨?_, ?_⟩) rest
  · rintro rfl
    exact absurd (hb _ hc) (by decide)
  · rintro rfl
    exact absurd (hb _ hc) (by decide)

/-- A sign that is no mark is passed over. -/
theorem quotedTexts_cons {c : Char} (h : c ≠ '"' ∧ c ≠ '\'') (rest : Text) :
    quotedTexts (c :: rest) = quotedTexts rest :=
  quotedTexts_append_of_no_mark (b := [c]) (by simpa using h) rest

theorem quotedTexts_of_spellsItems {items : List Text} {t : Text} (h : SpellsItems items t) :
    quotedTexts t = items := by
  have hbracket : quotedTexts [']'] = [] := by
    rw [quotedTexts_cons (by decide), quotedTexts]
  induction h with
  | nil => exact hbracket
  | last hq hb =>
      rw [quotedTexts_append_of_quotes hq, quotedTexts_append_of_isBlankText hb, hbracket]
  | cons hq hb hb' ht ih =>
      rw [quotedTexts_append_of_quotes hq, quotedTexts_append_of_isBlankText hb,
        quotedTexts_cons (by decide), quotedTexts_append_of_isBlankText hb', ih]

/-- **The quoted texts of a list are its items**, whatever they hold. -/
theorem quotedTexts_of_spellsList {items : List Text} {t : Text} (h : SpellsList items t) :
    quotedTexts t = items := by
  obtain ⟨hb, ht⟩ := h
  rw [quotedTexts_cons (by decide), quotedTexts_append_of_isBlankText hb,
    quotedTexts_of_spellsItems ht]

/-! ## Written lists -/

/-- An item of a list as it is written, among blanks. -/
structure WrittenItem where
  before : Text
  quote : WrittenQuote
  behind : Text
  blank_before : IsBlankText before
  blank_behind : IsBlankText behind

/-- The characters of a written item. -/
def WrittenItem.text (w : WrittenItem) : Text := w.before ++ (w.quote.text ++ w.behind)

/-- A list as it is written: at least one item, and possibly a comma behind the last one. -/
structure WrittenList where
  first : WrittenItem
  /-- The other items, which stand behind a comma each. -/
  more : List WrittenItem
  /-- The blanks behind the comma at the end, if there is one. -/
  closing : Option Text
  blank_closing : ∀ b ∈ closing, IsBlankText b

/-- How the comma at the end of a list is written. -/
def closingText : Option Text → Text
  | none => []
  | some b => ',' :: b

namespace WrittenList

variable {items : List Text} {t : Text}

/-- The characters of a written list behind its first item. -/
def rest (more : List WrittenItem) (closing : Option Text) : Text :=
  more.flatMap (',' :: ·.text) ++ (closingText closing ++ [']'])

/-- The characters of a written list. -/
def text (w : WrittenList) : Text := '[' :: (w.first.text ++ rest w.more w.closing)

/-- The contents of the items of a written list. -/
def contents (w : WrittenList) : List Text := (w.first :: w.more).map (·.quote.content)

theorem spellsItems (first : WrittenItem) (more : List WrittenItem) {closing : Option Text}
    (hclosing : ∀ b ∈ closing, IsBlankText b) :
    SpellsItems ((first :: more).map (·.quote.content))
      (first.quote.text ++ (first.behind ++ rest more closing)) := by
  induction more generalizing first with
  | nil =>
      cases closing with
      | none => exact SpellsItems.last first.quote.quotes first.blank_behind
      | some b =>
          exact SpellsItems.cons first.quote.quotes first.blank_behind (hclosing b rfl)
            SpellsItems.nil
  | cons next more ih =>
      have hrest : rest (next :: more) closing =
          ',' :: (next.before ++ (next.quote.text ++ (next.behind ++ rest more closing))) := by
        simp [rest, WrittenItem.text]
      rw [hrest, List.map_cons]
      exact SpellsItems.cons first.quote.quotes first.blank_behind next.blank_before (ih next)

theorem spells (w : WrittenList) : SpellsList w.contents w.text := by
  have hitems := spellsItems w.first w.more w.blank_closing
  have htext : w.text = '[' :: (w.first.before ++
      (w.first.quote.text ++ (w.first.behind ++ rest w.more w.closing))) := by
    simp [text, WrittenItem.text]
  rw [htext]
  exact SpellsList.intro w.first.blank_before hitems

/-- A quoted text with blanks around it is a written item. -/
theorem exists_item {content q b b' : Text} (hq : Quotes content q) (hb : IsBlankText b)
    (hb' : IsBlankText b') : ∃ w : WrittenItem,
      w.quote.content = content ∧ w.before = b ∧ w.quote.text = q ∧ w.behind = b' := by
  obtain ⟨hmark, hfree⟩ := hq
  exact ⟨⟨b, ⟨_, _, hmark, hfree⟩, b', hb, hb'⟩, rfl, rfl, rfl, rfl⟩

/-- Items that are written behind blanks are those of a written list, unless there are none. -/
theorem exists_of_spellsItems (h : SpellsItems items t) (hne : items ≠ []) {b : Text}
    (hb : IsBlankText b) :
    ∃ w : WrittenList, w.contents = items ∧ w.text = '[' :: (b ++ t) := by
  induction h generalizing b with
  | nil => exact absurd rfl hne
  | last hq hb' =>
      obtain ⟨first, hcontent, hbefore, htext, hbehind⟩ := exists_item hq hb hb'
      refine ⟨⟨first, [], none, by simp⟩, by simp [contents, hcontent], ?_⟩
      simp [text, WrittenItem.text, rest, closingText, hbefore, htext, hbehind]
  | @cons item q b' b'' t items hq hb' hb'' ht ih =>
      obtain ⟨first, hcontent, hbefore, htext, hbehind⟩ := exists_item hq hb hb'
      by_cases hlast : items = []
      · -- the comma ends the list
        rw [hlast] at ht
        cases ht
        refine ⟨⟨first, [], some b'', by simpa using hb''⟩, by simp [contents, hcontent, hlast], ?_⟩
        simp [text, WrittenItem.text, rest, closingText, hbefore, htext, hbehind]
      · obtain ⟨w, hcontents, hw⟩ := ih hlast hb''
        refine ⟨⟨first, w.first :: w.more, w.closing, w.blank_closing⟩, ?_, ?_⟩
        · rw [← hcontents, ← hcontent]
          rfl
        · have hrest : w.first.text ++ rest w.more w.closing = b'' ++ t := (List.cons.inj hw).2
          have hmore : rest (w.first :: w.more) w.closing = ',' :: (b'' ++ t) := by
            rw [← hrest]
            simp [rest]
          simp [text, WrittenItem.text, hmore, hbefore, htext, hbehind]

end WrittenList

/-- **A list of at least one item is read from its written forms only.** -/
theorem readList_eq_some_iff_written {t : Text} {items : List Text} (hne : items ≠ []) :
    readList t = some items ↔ ∃ w : WrittenList, w.text = t ∧ w.contents = items := by
  rw [readList_eq_some_iff]
  constructor
  · rintro ⟨hb, ht⟩
    obtain ⟨w, hcontents, htext⟩ := WrittenList.exists_of_spellsItems ht hne hb
    exact ⟨w, htext, hcontents⟩
  · rintro ⟨w, rfl, rfl⟩
    exact w.spells

/-! ## Loading a setting -/

namespace Registry

/-- A setting by itself is loaded as the settings that it gives. -/
theorem load_of_setting {line key : Text} {value : Option Text} (hline : IsLine line)
    (hform : LineForm.of line = .setting key value) :
    load line = match ({} : FileSettings).give key value with
      | .ok settings => .ok { recipes := [], settings }
      | .error fault => .error (.malformed none (.atLine 1 fault)) := by
  have hne : line ≠ [] := by
    rintro rfl
    cases hform
  rw [load_of_isLine hline hne, hform]
  -- before the first line nothing has been given
  show ofProgress (Progress.readSet 1 key value {} >>= Progress.finish) = _
  unfold Progress.readSet
  rw [if_neg (by simp)]
  dsimp only
  cases FileSettings.give {} key value with
  | error fault => rfl
  | ok settings => rfl

/-- The start of the line that gives a shell. -/
def shellStart : Text := "set shell := ".toList

theorem readSetting_shellStart (v : Text) :
    readSetting (trimEnd (shellStart ++ v)) = some ("shell".toList, some (trim v)) := by
  have hname : isName "shell".toList = true := rfl
  by_cases hv : trimEnd v = []
  · -- nothing but blanks stands behind the sign, which is then the end of the line
    have hblank := (trimEnd_eq_nil_iff v).mp hv
    have hend : trimEnd (shellStart ++ v) = "set shell :=".toList := by
      rw [trimEnd_append_of_blank _ hblank]
      rfl
    rw [hend, (trim_eq_nil_iff v).mpr hblank]
    exact readSetting_assignment hname []
  · have hread := readSetting_assignment hname (' ' :: trimEnd v)
    have htrim : trim (' ' :: trimEnd v) = trim v := by
      have hspace := trim_append_of_blank isBlankText_space (trimEnd v)
      rw [trim_trimEnd] at hspace
      exact hspace
    rw [htrim] at hread
    rw [trimEnd_append hv]
    exact hread

/-- A line that gives a shell has the trimmed value, where no comment is cut off. -/
theorem of_shellStart {v : Text} (hstrip : stripComment (shellStart ++ v) = shellStart ++ v) :
    LineForm.of (shellStart ++ v) = .setting "shell".toList (some (trim v)) := by
  have hdirective : Line.directive (shellStart ++ v) = trimEnd (shellStart ++ v) := by
    rw [Line.directive_eq, hstrip]
  have hform : LineForm.of (shellStart ++ v) =
      LineForm.ofDirective (Line.directive (shellStart ++ v)) :=
    LineForm.of_directive rfl (by decide)
  rw [hform, hdirective]
  unfold LineForm.ofDirective
  rw [readSetting_shellStart]

/-- **A shell is accepted exactly by the grammar of lists.** A line that gives a value to the shell,
and has no comment, is a recipe file exactly when the value without the blanks around it is a written
list the first text of which is not empty. The shell is then made of the contents of the written
texts in order, and these are the quoted texts that are found in the value from left to right. -/
theorem load_reads_written_list {v : Text} (hv : IsLine v)
    (hstrip : stripComment (shellStart ++ v) = shellStart ++ v) :
    ((∃ reg, load (shellStart ++ v) = .ok reg) ↔
      ∃ w : WrittenList, w.text = trim v ∧ w.first.quote.content ≠ []) ∧
    (∀ w : WrittenList, w.text = trim v → w.first.quote.content ≠ [] →
      load (shellStart ++ v) = .ok { recipes := [], settings := { shell := some w.contents } } ∧
      w.contents = quotedTexts (trim v)) := by
  have hline : IsLine (shellStart ++ v) := isLine_append (by decide) hv
  have hload := load_of_setting hline (of_shellStart hstrip)
  have hok : ∀ w : WrittenList, w.text = trim v → w.first.quote.content ≠ [] →
      load (shellStart ++ v) = .ok { recipes := [], settings := { shell := some w.contents } } := by
    intro w htext hcommand
    have hread : readList (trim v) = some w.contents :=
      (readList_eq_some_iff_written (by simp [WrittenList.contents])).mpr ⟨w, htext, rfl⟩
    have hgive := ({} : FileSettings).give_shell hread hcommand
    rw [hload, hgive]
    rfl
  refine ⟨⟨?_, ?_⟩, fun w htext hcommand => ⟨hok w htext hcommand, ?_⟩⟩
  · rintro ⟨reg, hreg⟩
    rw [hload] at hreg
    cases hgive : ({} : FileSettings).give "shell".toList (some (trim v)) with
    | error fault =>
        rw [hgive] at hreg
        cases hreg
    | ok settings =>
        rcases FileSettings.give_cases hgive with ⟨hkey, _⟩ | ⟨_, items, hread, hcommand, _⟩
        · exact absurd hkey (by decide)
        · have hne : items ≠ [] := by
            rintro rfl
            cases hcommand
          obtain ⟨w, htext, rfl⟩ := (readList_eq_some_iff_written hne).mp hread
          exact ⟨w, htext, by simpa [WrittenList.contents] using hcommand⟩
  · rintro ⟨w, htext, hcommand⟩
    exact ⟨_, hok w htext hcommand⟩
  · rw [← htext, quotedTexts_of_spellsList w.spells]

/-- The theorem at a list with a comma behind its last text, which is empty; the texts before it hold
a comma and a bracket, and a `#` and the other mark. -/
theorem load_reads_written_list_trailing :
    let v := "[ \"a, ]\" ,\t'#\"' , \"\" , ]  ".toList
    let w : WrittenList :=
      { first :=
          { before := [' '], quote := ⟨'"', "a, ]".toList, by decide, by decide⟩, behind := [' ']
            blank_before := isBlankText_space, blank_behind := isBlankText_space }
        more := [
          { before := ['\t'], quote := ⟨'\'', ['#', '"'], by decide, by decide⟩, behind := [' ']
            blank_before := by simp [IsBlankText, isBlank], blank_behind := isBlankText_space },
          { before := [' '], quote := ⟨'"', [], by decide, by decide⟩, behind := [' ']
            blank_before := isBlankText_space, blank_behind := isBlankText_space }]
        closing := some [' ']
        blank_closing := by simpa using isBlankText_space }
    IsLine v ∧ stripComment (shellStart ++ v) = shellStart ++ v ∧ w.text = trim v ∧
      w.first.quote.content ≠ [] ∧
      load (shellStart ++ v) =
        .ok { recipes := [], settings := { shell := some ["a, ]".toList, ['#', '"'], []] } } ∧
      quotedTexts (trim v) = ["a, ]".toList, ['#', '"'], []] := by
  intro v w
  have hline : IsLine v := by decide +kernel
  have hstrip : stripComment (shellStart ++ v) = shellStart ++ v := by decide +kernel
  have htext : w.text = trim v := by decide +kernel
  have hcommand : w.first.quote.content ≠ [] := by decide
  obtain ⟨hload, hfound⟩ := (load_reads_written_list hline hstrip).2 w htext hcommand
  exact ⟨hline, hstrip, htext, hcommand, hload, hfound.symm⟩

end Registry

end Runbook
