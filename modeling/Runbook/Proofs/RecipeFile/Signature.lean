import Runbook.Proofs.RecipeFile.Heading
import Runbook.Proofs.RecipeFile.WellFormed

set_option autoImplicit false

/-! # Signatures as headers

A listing shows a recipe by its signature: the name and the parameters, with every default between
quotation marks. A recipe file may also quote a default between apostrophes, and has to if the
default holds a quotation mark. So a signature is the header of its recipe, but for the colon, as
long as no default holds a quotation mark. Where one does, the mark ends the default in the
signature too early: the line is refused, or it declares other parameters, and then two recipes with
different parameters have one signature.
-/

namespace Runbook

open Text

/-- Whether no default holds a quotation mark. -/
def Recipe.HasPlainDefaults (r : Recipe) : Prop :=
  ∀ p ∈ r.parameters, ∀ d ∈ p.default, '"' ∉ d

instance (r : Recipe) : Decidable r.HasPlainDefaults :=
  inferInstanceAs (Decidable (∀ p ∈ r.parameters, ∀ d ∈ p.default, '"' ∉ d))

/-! ## Signatures and canonical headers -/

/-- How a listing shows a default behind the name of its parameter. -/
def shownDefault : Option Text → Text
  | none => []
  | some d => '=' :: '"' :: (d ++ ['"'])

theorem Parameter.text_eq (p : Parameter) :
    p.text = starText p.variadic ++ p.name ++ shownDefault p.default := by
  unfold text starText
  cases p.default with
  | none => simp [shownDefault]
  | some d => simp [shownDefault]

/-- The printer shows a parameter as a listing does, unless it has to use apostrophes. -/
theorem Parameter.printed_eq_text {p : Parameter} (h : ∀ d ∈ p.default, '"' ∉ d) :
    p.printed = p.text := by
  rw [text_eq, printed]
  congr 1
  cases hd : p.default with
  | none => rfl
  | some d =>
      have hmark : quoteMark d = '"' := by
        unfold quoteMark
        rw [if_neg (by simpa using h d hd)]
      simp [quotedForm, hmark, shownDefault]

theorem Recipe.HasPlainDefaults.header_eq {r : Recipe} (h : r.HasPlainDefaults) :
    r.header = r.signature ++ [':'] := by
  unfold header signature
  rw [List.map_congr_left fun p hp => Parameter.printed_eq_text (h p hp)]

theorem Parameter.isLine_text {p : Parameter} (hname : isName p.name = true)
    (hdefault : ∀ d ∈ p.default, IsLine d) : IsLine p.text := by
  have hnamed := isLine_append (isLine_starText p.variadic) (isLine_of_isName hname)
  have hshown : IsLine (shownDefault p.default) := by
    cases hd : p.default with
    | none => exact isLine_nil
    | some d =>
        have hquoted := isLine_append (hdefault d hd) (isLine_cons (c := '"') rfl isLine_nil)
        exact isLine_cons rfl (isLine_cons rfl hquoted)
  rw [text_eq]
  exact isLine_append hnamed hshown

theorem Recipe.Printable.isLine_signature {r : Recipe} (h : r.Printable) :
    IsLine (r.signature ++ [':']) := by
  have hparts : ∀ t ∈ r.name :: r.parameters.map (·.text), IsLine t := by
    refine List.forall_mem_cons.mpr ⟨isLine_of_isName h.named, fun t ht => ?_⟩
    obtain ⟨p, hp, rfl⟩ := List.mem_map.mp ht
    exact Parameter.isLine_text (h.parameters_named p hp)
      fun d hd => (h.defaults_quotable p hp d hd).1
  exact isLine_append (isLine_join (isLine_cons rfl isLine_nil) hparts)
    (isLine_cons rfl isLine_nil)

/-! ## Parameters that are written as a listing shows them -/

/-- A default is written as a listing shows it only between the marks that the listing uses, and so
holds none of them. -/
theorem plain_of_defaultText_append {default : Option WrittenQuote} {rest more : Text}
    (h : defaultText default ++ rest = shownDefault (default.map (·.content)) ++ more) :
    (∀ d ∈ default.map (·.content), '"' ∉ d) ∧ rest = more := by
  cases default with
  | none => exact ⟨by simp, h⟩
  | some q =>
      simp only [defaultText, shownDefault, WrittenQuote.text, Option.map_some,
        List.append_assoc, List.cons_append, List.nil_append] at h
      obtain ⟨hmark, hbehind⟩ := List.cons.inj (List.cons.inj h).2
      have hfree := q.free
      rw [hmark] at hfree hbehind
      exact ⟨by simpa using hfree, (List.cons.inj (List.append_cancel_left hbehind)).2⟩

/-- Written parameters that begin what a listing shows of them have no quotation mark in their
defaults. -/
theorem plain_of_parametersText_append {ws : List WrittenParameter} {rest more : Text}
    (h : parametersText ws ++ rest =
      (ws.map (·.parameter.text)).flatMap ([' '] ++ ·) ++ more) :
    ∀ w ∈ ws, ∀ d ∈ w.parameter.default, '"' ∉ d := by
  induction ws with
  | nil => simp
  | cons w ws ih =>
      let named := starText w.variadic ++ w.name
      let shown := (ws.map (·.parameter.text)).flatMap ([' '] ++ ·)
      have hcons : w.blanks ++ (named ++ (defaultText w.default ++ (parametersText ws ++ rest))) =
          [' '] ++ (named ++ (shownDefault w.parameter.default ++ (shown ++ more))) := by
        rw [parametersText_cons, List.map_cons, List.flatMap_cons, Parameter.text_eq] at h
        simp only [WrittenParameter.text, WrittenParameter.body, List.append_assoc] at h
        simp only [named, List.append_assoc]
        exact h
      have hnamed : Parameter.Spells ⟨w.name, none, w.variadic⟩ named :=
        Parameter.Spells.plain w.variadic w.named
      -- behind their blanks, both sides begin with the name
      have hname := congrArg trimStart hcons
      rw [trimStart_append_of_spells w.blank hnamed,
        trimStart_append_of_spells isBlankText_space hnamed] at hname
      obtain ⟨hplain, hrest⟩ := plain_of_defaultText_append (List.append_cancel_left hname)
      exact List.forall_mem_cons.mpr ⟨hplain, ih hrest⟩

/-! ## Reading a signature -/

/-- Behind the name of a signature stands a blank or, without parameters, the colon. -/
theorem stops_shown (ts : List Text) (more : Text) :
    Stops (ts.flatMap ([' '] ++ ·) ++ ':' :: more) := by
  cases ts with
  | nil => exact ⟨':', more, rfl, Or.inr rfl⟩
  | cons t ts => exact ⟨' ', _, rfl, Or.inl rfl⟩

theorem Recipe.Printable.readName_signature {r : Recipe} (h : r.Printable) :
    readName (r.signature ++ [':']) =
      some (r.name, (r.parameters.map (·.text)).flatMap ([' '] ++ ·) ++ [':']) := by
  unfold signature
  rw [join_cons, List.append_assoc]
  exact readName_append_of_isName h.named (stops_shown _ []).isNameRest_head

/-- A written header that begins a signature with its colon, and declares the parameters of the
recipe, has no quotation mark in its defaults. -/
theorem Recipe.Printable.plain_of_isPrefix {r : Recipe} (h : r.Printable) {w : WrittenHeader}
    (hbegins : w.text <+: r.signature ++ [':']) (hdeclared : w.declared = r.parameters) :
    r.HasPlainDefaults := by
  obtain ⟨more, hcut⟩ := hbegins
  have htext : w.text ++ more = w.name ++
      (parametersText w.parameters ++ (w.before ++ ':' :: (w.behind ++ more))) := by
    simp [WrittenHeader.text]
  have hstops : Stops (parametersText w.parameters ++ (w.before ++ ':' :: (w.behind ++ more))) :=
    (spellsParameters_parametersText w.parameters).stops (stops_append_colon w.blank_before _)
  have hread := congrArg readName (htext.symm.trans hcut)
  rw [h.readName_signature, readName_append_of_isName w.named hstops.isNameRest_head,
    Option.some.injEq, Prod.mk.injEq, ← hdeclared, WrittenHeader.declared, List.map_map] at hread
  have hplain := plain_of_parametersText_append hread.2
  intro p hp
  rw [← hdeclared] at hp
  obtain ⟨v, hv, rfl⟩ := List.mem_map.mp hp
  exact hplain v hv

/-! ## Loading a signature -/

namespace Registry

variable {source : Option Path} {t : Text} {reg : Registry} {r : Recipe}

theorem printable_of_ofText (h : ofText source t = .ok reg) (hr : r ∈ reg.recipes) :
    r.Printable := by
  obtain ⟨s, hs, rfl⟩ := ofText_eq_ok_iff.mp h
  exact (Progress.wellFormed_of_ofLines isLine_of_mem_lines hs).recipes r hr

/-- The header of a recipe that is loaded from a line by itself is written in this line, up to the
comment. -/
theorem exists_written_of_load {line : Text} (hline : IsLine line) (h : load line = .ok reg)
    (hr : r ∈ reg.recipes) :
    ∃ w : WrittenHeader, w.text = stripComment line ∧ w.declared = r.parameters := by
  obtain ⟨s, hs, rfl⟩ := load_eq_ok_iff.mp h
  have hstands := List.forall₂_iff_get.mp (Progress.standsAt_of_ofLines hs)
  obtain ⟨i, rfl⟩ := List.get_of_mem hr
  obtain ⟨p, hp, hat⟩ : ∃ p ∈ headings (lines line), (s.recipes.get i).StandsAt p :=
    ⟨_, List.get_mem _ _, hstands.2 i i.2 (hstands.1 ▸ i.2)⟩
  have hmem : p.line ∈ lines line := by
    rw [← map_line_places (lines line)]
    exact List.mem_map_of_mem (List.mem_filter.mp hp).1
  have hsame : p.line = line := by
    rw [lines_of_isLine hline] at hmem
    split at hmem
    · cases hmem
    · exact List.mem_singleton.mp hmem
  have hdeclares := hat.declares
  rw [hsame] at hdeclares
  obtain ⟨w, htext, _, hdeclared, _⟩ := declaration_directive_eq_ok_iff.mp hdeclares
  exact ⟨w, htext, hdeclared⟩

/-- **A signature is a header of its recipe exactly if it has plain defaults.** Then it is loaded,
with a colon behind it, as one recipe with the same name and the same parameters; otherwise, if it is
loaded at all, it is loaded with other parameters. Recipes with equal signatures have equal names,
and, if their defaults are plain, equal parameters. -/
theorem load_signature (h : ofText source t = .ok reg) (hr : r ∈ reg.recipes) :
    (r.HasPlainDefaults → load (r.signature ++ [':']) =
      .ok { recipes := [{ name := r.name, parameters := r.parameters, line := 1 }] }) ∧
    (¬ r.HasPlainDefaults → ∀ reg', load (r.signature ++ [':']) = .ok reg' →
      ∀ r' ∈ reg'.recipes, r'.parameters ≠ r.parameters) ∧
    ∀ source' t' reg' r', ofText source' t' = .ok reg' → r' ∈ reg'.recipes →
      r'.signature = r.signature → r'.name = r.name ∧
        (r'.HasPlainDefaults → r.HasPlainDefaults → r'.parameters = r.parameters) := by
  have hload : ∀ {q : Recipe}, q.Printable → q.HasPlainDefaults →
      load (q.signature ++ [':']) =
        .ok { recipes := [{ name := q.name, parameters := q.parameters, line := 1 }] } := by
    intro q hq hplain
    rw [← hplain.header_eq, load_of_header hq.isLine_header (of_header hq),
      declaration_of_spells hq.spells_header hq.ordered]
  have hprintable := printable_of_ofText h hr
  refine ⟨hload hprintable, ?_, ?_⟩
  · intro hplain reg' h' r' hr' hsame
    obtain ⟨w, htext, hdeclared⟩ := exists_written_of_load hprintable.isLine_signature h' hr'
    have hbegins : w.text <+: r.signature ++ [':'] := htext ▸ isPrefix_stripComment _
    exact hplain (hprintable.plain_of_isPrefix hbegins (hdeclared.trans hsame))
  · intro source' t' reg' r' h' hr' hsame
    have hprintable' := printable_of_ofText h' hr'
    refine ⟨?_, fun hplain' hplain => ?_⟩
    · have hread := hprintable'.readName_signature
      rw [hsame, hprintable.readName_signature, Option.some.injEq, Prod.mk.injEq] at hread
      exact hread.1.symm
    · have hboth := hload hprintable' hplain'
      rw [hsame, hload hprintable hplain, Except.ok.injEq, Registry.mk.injEq] at hboth
      exact (congrArg Recipe.parameters (List.cons.inj hboth.1).1).symm

/-- A recipe with the name of settings, the plain defaults of which hold a comment, an assignment, a
colon and an apostrophe, and a recipe with a quotation mark. -/
theorem load_signature_plain :
    let t := "set x='# =:' *y=\"it's\": # label\n\techo {{x}}\nq z='\"' :".toList
    let plain : Recipe := {
      name := "set".toList
      parameters := [⟨['x'], some "# =:".toList, false⟩, ⟨['y'], some "it's".toList, true⟩]
      body := ["echo {{x}}".toList]
      line := 1 }
    let marked : Recipe := {
      name := ['q'], parameters := [⟨['z'], some ['"'], false⟩], line := 3 }
    (ofText none t = .ok { recipes := [plain, marked] } ∧ plain.HasPlainDefaults ∧
      ¬ marked.HasPlainDefaults) ∧
    load (plain.signature ++ [':']) =
      .ok { recipes := [{ name := plain.name, parameters := plain.parameters, line := 1 }] } ∧
    ∀ reg', load (marked.signature ++ [':']) = .ok reg' →
      ∀ r' ∈ reg'.recipes, r'.parameters ≠ marked.parameters := by
  intro t plain marked
  have hload : ofText none t = .ok { recipes := [plain, marked] } := by decide +kernel
  have hplain : plain.HasPlainDefaults := by decide
  have hmarked : ¬ marked.HasPlainDefaults := by decide
  refine ⟨⟨hload, hplain, hmarked⟩, ?_, ?_⟩
  · exact (load_signature hload (by simp)).1 hplain
  · exact (load_signature hload (by simp)).2.1 hmarked

/-- The signature of a recipe with a quotation mark in a default may be refused, and it may be that of
a recipe with other parameters. -/
theorem load_signature_marked :
    let a : Recipe := { name := ['a'], parameters := [⟨['x'], some ['"'], false⟩], line := 1 }
    let one : Recipe := {
      name := ['a'], parameters := [⟨['x'], some "1\" y=\"2".toList, false⟩], line := 1 }
    let two : Recipe := {
      name := ['a']
      parameters := [⟨['x'], some ['1'], false⟩, ⟨['y'], some ['2'], false⟩]
      line := 1 }
    load "a x='\"':".toList = .ok { recipes := [a] } ∧
    load (a.signature ++ [':']) =
      .error (.malformed none (.atLine 1 (.expectedColon ['a'] "\":".toList))) ∧
    load "a x='1\" y=\"2':".toList = .ok { recipes := [one] } ∧
    load "a x=\"1\" y=\"2\":".toList = .ok { recipes := [two] } ∧
    one.signature = two.signature ∧ one.parameters ≠ two.parameters := by
  decide +kernel

end Registry

end Runbook
