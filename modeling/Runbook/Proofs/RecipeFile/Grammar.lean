import Runbook.Proofs.RecipeFile.Outline
import Runbook.Proofs.Text.Lines

set_option autoImplicit false

/-! # The grammar of headers

A header is a name, parameters that each stand behind blanks, and a colon among blanks. A *written*
header keeps all its parts, the blanks and the marks too, so that it is a derivation of its text: a
text is a header when it is that of a written one, and it is the text of one only. The reader finds
the written header wherever there is one. A text of one line that is neither indented, a comment nor
a setting is therefore a recipe file exactly when it is a header, up to its comment, with the
parameters in order.
-/

namespace Runbook

open Text

/-! ## Quoted texts -/

/-- A quoted text as it is written: between two marks that it does not hold. -/
@[ext]
structure WrittenQuote where
  mark : Char
  content : Text
  is_mark : mark = '"' ∨ mark = '\''
  free : mark ∉ content

namespace WrittenQuote

variable {q q' : WrittenQuote}

/-- The characters of a written quoted text. -/
def text (q : WrittenQuote) : Text := q.mark :: (q.content ++ [q.mark])

theorem quotes (q : WrittenQuote) : Quotes q.content q.text := Quotes.intro q.is_mark q.free

theorem eq_of_text (h : q.text = q'.text) : q = q' := by
  have hcontent : q.content = q'.content := by
    have hread := readQuoted_append q.quotes []
    rw [h, readQuoted_append q'.quotes [], Option.some.injEq, Prod.mk.injEq] at hread
    exact hread.1.symm
  exact WrittenQuote.ext (List.cons.inj h).1 hcontent

/-- What is read as a quoted text is written. -/
theorem exists_of_readQuoted {t content after : Text}
    (h : readQuoted t = some (content, after)) :
    ∃ q : WrittenQuote, q.content = content ∧ t = q.text ++ after := by
  cases t with
  | nil => cases h
  | cons mark t =>
      rw [readQuoted] at h
      split at h
      · next hmark =>
          split at h
          · next before rest hcut =>
              cases h
              obtain ⟨hfree, rfl⟩ := eq_append_of_cutAt hcut
              exact ⟨⟨mark, content, by simpa using hmark, hfree⟩, rfl, by simp [text]⟩
          · cases h
      · cases h

end WrittenQuote

/-! ## Parameters -/

/-- A parameter as it is written in a header, with the blanks before it. -/
@[ext]
structure WrittenParameter where
  blanks : Text
  variadic : Bool
  name : Text
  default : Option WrittenQuote
  blank : IsBlankText blanks
  apart : blanks ≠ []
  named : isName name = true

/-- How the default of a parameter is written behind its name. -/
def defaultText : Option WrittenQuote → Text
  | none => []
  | some q => '=' :: q.text

theorem eq_of_defaultText {d d' : Option WrittenQuote} (h : defaultText d = defaultText d') :
    d = d' := by
  cases d with
  | none =>
      cases d' with
      | none => rfl
      | some q' => cases h
  | some q =>
      cases d' with
      | none => cases h
      | some q' => rw [WrittenQuote.eq_of_text (List.cons.inj h).2]

namespace WrittenParameter

variable {w w' : WrittenParameter}

/-- The characters of a written parameter behind its blanks. -/
def body (w : WrittenParameter) : Text :=
  starText w.variadic ++ (w.name ++ defaultText w.default)

/-- The characters of a written parameter. -/
def text (w : WrittenParameter) : Text := w.blanks ++ w.body

/-- The parameter that is written. -/
def parameter (w : WrittenParameter) : Parameter :=
  { name := w.name, default := w.default.map (·.content), variadic := w.variadic }

theorem spells (w : WrittenParameter) : w.parameter.Spells w.body := by
  unfold parameter body
  cases w.default with
  | none =>
      rw [defaultText, List.append_nil]
      exact Parameter.Spells.plain w.variadic w.named
  | some q => exact Parameter.Spells.withDefault w.variadic w.named q.quotes

theorem readParameter_text_append (w : WrittenParameter) {rest : Text} (h : Stops rest) :
    readParameter (w.text ++ rest) = some (w.parameter, rest) := by
  unfold text
  rw [List.append_assoc]
  exact readParameter_append w.blank w.apart w.spells h

theorem trimStart_text (w : WrittenParameter) : trimStart w.text = w.body := by
  have hskip := trimStart_append_of_spells w.blank w.spells []
  rwa [List.append_nil] at hskip

theorem eq_of_text (h : w.text = w'.text) (hp : w.parameter = w'.parameter) : w = w' := by
  have hbody : w.body = w'.body := by rw [← trimStart_text, h, trimStart_text]
  have hblanks : w.blanks = w'.blanks := by
    unfold text at h
    rw [hbody] at h
    exact List.append_cancel_right h
  have hvariadic : w.variadic = w'.variadic := congrArg Parameter.variadic hp
  have hname : w.name = w'.name := congrArg Parameter.name hp
  have hdefault : defaultText w.default = defaultText w'.default := by
    unfold body at hbody
    rw [hvariadic, hname] at hbody
    exact List.append_cancel_left (List.append_cancel_left hbody)
  exact WrittenParameter.ext hblanks hvariadic hname (eq_of_defaultText hdefault)

/-- A written parameter is the only one at the start of a text, as long as it ends there. -/
theorem eq_of_text_append {rest rest' : Text} (hrest : Stops rest) (hrest' : Stops rest')
    (h : w.text ++ rest = w'.text ++ rest') : w = w' ∧ rest = rest' := by
  have hread := (w.readParameter_text_append hrest).symm.trans
    ((congrArg readParameter h).trans (w'.readParameter_text_append hrest'))
  rw [Option.some.injEq, Prod.mk.injEq] at hread
  obtain ⟨hp, rfl⟩ := hread
  exact ⟨eq_of_text (List.append_cancel_right h) hp, rfl⟩

/-- What is read as a parameter is written. -/
theorem exists_of_readParameter {t after : Text} {p : Parameter}
    (h : readParameter t = some (p, after)) :
    ∃ w : WrittenParameter, w.parameter = p ∧ t = w.text ++ after := by
  cases t with
  | nil => cases h
  | cons c t =>
      rw [readParameter] at h
      split at h
      · next hc =>
          obtain ⟨b, hb, hblanks⟩ := exists_append_trimStart t
          have hstar := starText_append_readStar (trimStart t)
          -- the reader looks at the first blank and cuts the others off
          have hblank : IsBlankText (c :: b) := List.forall_mem_cons.mpr ⟨hc, hb⟩
          dsimp only at h
          split at h
          · next name rest hname =>
              have hcut := readName_append hname
              have hnamed := isName_of_readName hname
              rw [hblanks, ← hstar, hcut]
              split at h
              · next d after' hdefault =>
                  cases h
                  obtain ⟨more, rfl, hquoted⟩ := readDefault_eq_some hdefault
                  obtain ⟨q, rfl, rfl⟩ := WrittenQuote.exists_of_readQuoted hquoted
                  refine ⟨⟨c :: b, _, name, some q, hblank, by simp, hnamed⟩, rfl, ?_⟩
                  simp [text, body, defaultText]
              · cases h
                refine ⟨⟨c :: b, _, name, none, hblank, by simp, hnamed⟩, rfl, ?_⟩
                simp [text, body, defaultText]
          · cases h
      · cases h

end WrittenParameter

/-- The characters of written parameters. -/
def parametersText (ws : List WrittenParameter) : Text := ws.flatMap (·.text)

@[simp] theorem parametersText_nil : parametersText [] = [] := rfl

@[simp] theorem parametersText_cons (w : WrittenParameter) (ws : List WrittenParameter) :
    parametersText (w :: ws) = w.text ++ parametersText ws := rfl

theorem spellsParameters_parametersText (ws : List WrittenParameter) :
    SpellsParameters (ws.map (·.parameter)) (parametersText ws) := by
  induction ws with
  | nil => exact SpellsParameters.nil
  | cons w ws ih =>
      rw [parametersText_cons, WrittenParameter.text, List.append_assoc]
      exact SpellsParameters.cons w.blank w.apart w.spells ih

/-- Written parameters are the only ones before a colon. -/
theorem eq_of_parametersText_append {ws ws' : List WrittenParameter} {tail tail' : Text}
    (hstop : Stops tail) (hstop' : Stops tail') (hend : EndsParameters tail)
    (hend' : EndsParameters tail')
    (h : parametersText ws ++ tail = parametersText ws' ++ tail') : ws = ws' ∧ tail = tail' := by
  have hstops : ∀ {rest : Text} (vs : List WrittenParameter), Stops rest →
      Stops (parametersText vs ++ rest) := fun vs hrest =>
    (spellsParameters_parametersText vs).stops hrest
  -- what ends the parameters does not begin with one, so that neither list can go on alone
  have hnone : ∀ {rest rest' : Text} {v : WrittenParameter} (vs : List WrittenParameter),
      EndsParameters rest → Stops rest' → rest ≠ parametersText (v :: vs) ++ rest' := by
    intro rest rest' v vs hrest hrest' heq
    have hread := hrest.readParameter
    rw [heq, parametersText_cons, List.append_assoc,
      v.readParameter_text_append (hstops vs hrest')] at hread
    cases hread
  induction ws generalizing ws' with
  | nil =>
      cases ws' with
      | nil => exact ⟨rfl, h⟩
      | cons w' ws' => exact absurd h (hnone ws' hend hstop')
  | cons w ws ih =>
      cases ws' with
      | nil => exact absurd h.symm (hnone ws hend' hstop)
      | cons w' ws' =>
          rw [parametersText_cons, parametersText_cons, List.append_assoc, List.append_assoc] at h
          obtain ⟨rfl, hrest⟩ :=
            WrittenParameter.eq_of_text_append (hstops ws hstop) (hstops ws' hstop') h
          obtain ⟨rfl, htail⟩ := ih hrest
          exact ⟨rfl, htail⟩

/-- The parameters that are read are written. -/
theorem exists_of_readParameters (t : Text) : ∃ ws : List WrittenParameter,
    ws.map (·.parameter) = (readParameters t).1 ∧ t = parametersText ws ++ (readParameters t).2 := by
  fun_induction readParameters t with
  | case1 t p after hp ps rest hps ih =>
      obtain ⟨w, rfl, rfl⟩ := WrittenParameter.exists_of_readParameter hp
      rw [hps] at ih
      obtain ⟨ws, rfl, rfl⟩ := ih
      exact ⟨w :: ws, rfl, by rw [parametersText_cons, List.append_assoc]⟩
  | case2 t hp => exact ⟨[], rfl, rfl⟩

/-! ## Headers -/

/-- What stands behind the parameters of a header is a colon among blanks. -/
theorem exists_append_of_trim_eq_colon {t : Text} (h : trim t = [':']) :
    ∃ b b', IsBlankText b ∧ IsBlankText b' ∧ t = b ++ ':' :: b' := by
  obtain ⟨b, hb, hstart⟩ := exists_append_trimStart t
  obtain ⟨b', hb', hend⟩ := exists_append_trimEnd (trimStart t)
  have hcolon : trimEnd (trimStart t) = [':'] := h
  rw [hcolon] at hend
  exact ⟨b, b', hb, hb', by rw [hstart, hend]; rfl⟩

/-- A header as it is written. -/
@[ext]
structure WrittenHeader where
  name : Text
  parameters : List WrittenParameter
  /-- The blanks before the colon. -/
  before : Text
  /-- The blanks behind the colon. -/
  behind : Text
  named : isName name = true
  blank_before : IsBlankText before
  blank_behind : IsBlankText behind

namespace WrittenHeader

variable {w w' : WrittenHeader}

/-- The characters of a written header. -/
def text (w : WrittenHeader) : Text :=
  w.name ++ (parametersText w.parameters ++ (w.before ++ ':' :: w.behind))

/-- The parameters that a written header declares. -/
def declared (w : WrittenHeader) : List Parameter := w.parameters.map (·.parameter)

theorem spells (w : WrittenHeader) : SpellsHeader w.name w.declared w.text :=
  SpellsHeader.intro w.named (spellsParameters_parametersText w.parameters) w.blank_before
    w.blank_behind

/-- **No two written headers have the same text.** -/
theorem eq_of_text (h : w.text = w'.text) : w = w' := by
  have hstop : ∀ v : WrittenHeader, Stops (v.before ++ ':' :: v.behind) := fun v =>
    stops_append_colon v.blank_before v.behind
  have hend : ∀ v : WrittenHeader, EndsParameters (v.before ++ ':' :: v.behind) := fun v =>
    endsParameters_append_colon v.blank_before v.behind
  have hread : ∀ v : WrittenHeader, readName v.text =
      some (v.name, parametersText v.parameters ++ (v.before ++ ':' :: v.behind)) := fun v =>
    readName_append_of_isName v.named
      ((spellsParameters_parametersText v.parameters).stops (hstop v)).isNameRest_head
  have hparts := (hread w).symm.trans ((congrArg readName h).trans (hread w'))
  rw [Option.some.injEq, Prod.mk.injEq] at hparts
  obtain ⟨hname, hrest⟩ := hparts
  obtain ⟨hparameters, htail⟩ :=
    eq_of_parametersText_append (hstop w) (hstop w') (hend w) (hend w') hrest
  -- the blanks before the colon hold no colon, so that both sides have the same one
  have hcolon := congrArg trimStart htail
  rw [trimStart_append_colon w.blank_before, trimStart_append_colon w'.blank_before] at hcolon
  have hbefore : w.before = w'.before := by
    rw [hcolon] at htail
    exact List.append_cancel_right htail
  exact WrittenHeader.ext hname hparameters hbefore (List.cons.inj hcolon).2

/-- A header that is read is written. -/
theorem exists_of_readHeader {line name tail : Text} {ps : List Parameter}
    (h : readHeader line = some (name, ps, tail)) (htail : tailFault? name tail = none) :
    ∃ w : WrittenHeader, w.text = line ∧ w.name = name ∧ w.declared = ps := by
  obtain ⟨⟨name', rest⟩, hname, heq⟩ := Option.map_eq_some_iff.mp h
  rw [Prod.mk.injEq] at heq
  obtain ⟨rfl, hread⟩ := heq
  obtain ⟨ws, hws, hrest⟩ := exists_of_readParameters rest
  rw [hread] at hws hrest
  obtain ⟨b, b', hb, hb', rfl⟩ :=
    exists_append_of_trim_eq_colon (tailFault?_eq_none_iff.mp htail)
  refine ⟨⟨name', ws, b, b', isName_of_readName hname, hb, hb'⟩, ?_, rfl, hws⟩
  have hline : line = name' ++ (parametersText ws ++ (b ++ ':' :: b')) := by
    rw [readName_append hname, hrest]
  exact hline.symm

end WrittenHeader

/-- **A line declares what it is a written header of**, if the parameters are in order, and nothing
otherwise. -/
theorem declaration_eq_ok_iff_written {line name : Text} {ps : List Parameter} :
    declaration line = .ok (name, ps) ↔
      ∃ w : WrittenHeader, w.text = line ∧ w.name = name ∧ w.declared = ps ∧
        OrderedParameters ps := by
  constructor
  · intro h
    obtain ⟨tail, hread, htail, hord⟩ := declaration_eq_ok_iff.mp h
    obtain ⟨w, htext, hname, hps⟩ := WrittenHeader.exists_of_readHeader hread htail
    exact ⟨w, htext, hname, hps, hord⟩
  · rintro ⟨w, rfl, rfl, rfl, hord⟩
    exact declaration_of_spells w.spells hord

end Runbook
