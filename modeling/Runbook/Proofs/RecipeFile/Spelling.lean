import Runbook.Proofs.RecipeFile.Checked
import Runbook.Proofs.Text.Trimming

set_option autoImplicit false

/-! # How headers and lists are written

The written forms of the parts of a recipe file: quoted texts, parameters, headers, and the lists
of quoted texts that a shell is given by. Blanks may stand in many places and either mark may
quote a text, so a written form is a relation between a value and a text. Each reader gives back
the value of every text that is a written form of it. A header is never taken for a setting, and a
written form holds no comment, because every `#` in it stands between marks.
-/

namespace Runbook

open Text

/-- Whether a text holds nothing but blanks. -/
def IsBlankText (t : Text) : Prop := ∀ c ∈ t, isBlank c = true

theorem isBlankText_nil : IsBlankText [] := by
  intro c hc
  cases hc

theorem isBlankText_space : IsBlankText [' '] := by
  intro c hc
  rw [List.mem_singleton.mp hc]
  rfl

/-! ## Names -/

theorem isNameRest_iff (c : Char) : isNameRest c = true ↔
    (0x61 ≤ c.toNat ∧ c.toNat ≤ 0x7a) ∨ (0x41 ≤ c.toNat ∧ c.toNat ≤ 0x5a) ∨ c.toNat = 0x5f ∨
    (0x30 ≤ c.toNat ∧ c.toNat ≤ 0x39) ∨ c.toNat = 0x2d := by
  have hle : ∀ a b : Char, a ≤ b ↔ a.toNat ≤ b.toNat := fun _ _ => Iff.rfl
  simp only [isNameRest, isNameStart, Bool.or_eq_true, Bool.and_eq_true, decide_eq_true_eq,
    beq_iff_eq, hle, ← Char.toNat_inj, Char.reduceToNat]
  omega

theorem isNameRest_of_isNameStart {c : Char} (h : isNameStart c = true) :
    isNameRest c = true := by
  unfold isNameRest
  rw [h]
  rfl

theorem isNameRest_of_isBlank {c : Char} (h : isBlank c = true) : isNameRest c = false := by
  by_contra hn
  rw [Bool.not_eq_false, isNameRest_iff] at hn
  rw [isBlank_iff] at h
  omega

theorem isBlank_of_isNameRest {c : Char} (h : isNameRest c = true) : isBlank c = false := by
  by_contra hb
  rw [isNameRest_of_isBlank (by simpa using hb)] at h
  cases h

/-- An identifier is not empty, and all its characters may stand in one. -/
theorem exists_cons_of_isName {name : Text} (h : isName name = true) :
    ∃ c rest, name = c :: rest ∧ isNameStart c = true ∧ ∀ d ∈ name, isNameRest d = true := by
  cases name with
  | nil => cases h
  | cons c rest =>
      rw [isName, Bool.and_eq_true, List.all_eq_true] at h
      refine ⟨c, rest, rfl, h.1, fun d hd => ?_⟩
      rcases List.mem_cons.mp hd with rfl | hd
      · exact isNameRest_of_isNameStart h.1
      · exact h.2 d hd

theorem isNameRest_head_cons {c : Char} (h : isNameRest c = false) (rest : Text) :
    ∀ d ∈ (c :: rest).head?, isNameRest d = false := by
  intro d hd
  rw [List.head?_cons, Option.mem_some] at hd
  rw [← hd]
  exact h

/-- An identifier is read up to a character that cannot go on with it. -/
theorem readName_append_of_isName {name rest : Text} (h : isName name = true)
    (hrest : ∀ c ∈ rest.head?, isNameRest c = false) :
    readName (name ++ rest) = some (name, rest) := by
  obtain ⟨c, tail, rfl, hc, hall⟩ := exists_cons_of_isName h
  have htail : ∀ d ∈ tail, isNameRest d = true := fun d hd => hall d (by simp [hd])
  have hstop : rest.takeWhile isNameRest = [] ∧ rest.dropWhile isNameRest = rest := by
    cases rest with
    | nil => exact ⟨rfl, rfl⟩
    | cons d more =>
        have hd := hrest d (by simp)
        rw [List.takeWhile_cons, List.dropWhile_cons, hd]
        exact ⟨rfl, rfl⟩
  rw [List.cons_append, readName, if_pos hc, List.takeWhile_append_of_pos htail,
    List.dropWhile_append_of_pos htail, hstop.1, hstop.2, List.append_nil]

theorem isName_of_readName {t name rest : Text} (h : readName t = some (name, rest)) :
    isName name = true := by
  cases t with
  | nil => cases h
  | cons c t =>
      rw [readName] at h
      split at h
      · next hc =>
          cases h
          rw [isName, hc, Bool.true_and]
          exact List.all_takeWhile
      · cases h

/-- What stands behind a name that is read does not go on with it. -/
theorem isNameRest_head_of_readName {t name rest : Text} (h : readName t = some (name, rest)) :
    ∀ c ∈ rest.head?, isNameRest c = false := by
  cases t with
  | nil => cases h
  | cons c t =>
      rw [readName] at h
      split at h
      · rw [Option.some.injEq, Prod.mk.injEq] at h
        intro d hd
        have hhead := List.head?_dropWhile_not isNameRest t
        rw [h.2, Option.mem_def.mp hd] at hhead
        simpa using hhead
      · cases h

theorem trimStart_append_of_isName {name : Text} (h : isName name = true) (rest : Text) :
    trimStart (name ++ rest) = name ++ rest := by
  obtain ⟨c, tail, rfl, hc, _⟩ := exists_cons_of_isName h
  exact trimStart_of_head (isBlank_of_isNameRest (isNameRest_of_isNameStart hc)) _

/-- A text that ends in a name ends in no blank. -/
theorem trimEnd_append_isName (t : Text) {name : Text} (h : isName name = true) :
    trimEnd (t ++ name) = t ++ name := by
  obtain ⟨c, rest, rfl, _, hall⟩ := exists_cons_of_isName h
  obtain ⟨u, d, hu⟩ := List.eq_nil_or_concat (c :: rest) |>.resolve_left (by simp)
  rw [List.concat_eq_append] at hu
  have hd : isNameRest d = true := hall d (by simp [hu])
  rw [hu, ← List.append_assoc]
  exact trimEnd_of_last _ (isBlank_of_isNameRest hd)

/-! ## Quoted texts -/

/-- A text stands between two marks that it does not hold. -/
inductive Quotes : Text → Text → Prop where
  | intro {mark : Char} {content : Text} (hmark : mark = '"' ∨ mark = '\'')
      (h : mark ∉ content) : Quotes content (mark :: (content ++ [mark]))

theorem cutAt_append {c : Char} {t : Text} (h : c ∉ t) (rest : Text) :
    cutAt c (t ++ c :: rest) = (t, some rest) := by
  induction t with
  | nil => simp [cutAt]
  | cons d t ih =>
      rw [List.mem_cons, not_or] at h
      have hd : (d == c) = false := by simpa using Ne.symm h.1
      rw [List.cons_append, cutAt, hd, ih h.2]
      rfl

/-- A text is cut at the first occurrence of a character. -/
theorem eq_append_of_cutAt {c : Char} {t before after : Text}
    (h : cutAt c t = (before, some after)) : c ∉ before ∧ t = before ++ c :: after := by
  induction t generalizing before with
  | nil => cases h
  | cons d t ih =>
      rw [cutAt] at h
      split at h
      · next hd =>
          cases h
          exact ⟨by simp, by rw [beq_iff_eq.mp hd]; rfl⟩
      · next hd =>
          rw [Prod.mk.injEq] at h
          have hrest : cutAt c t = ((cutAt c t).1, some after) := by rw [← h.2]
          obtain ⟨hfree, hcut⟩ := ih hrest
          have hne : c ≠ d := fun heq => hd (by simp [heq])
          rw [← h.1]
          exact ⟨by simp [hne, hfree], by rw [List.cons_append, ← hcut]⟩

theorem readQuoted_append {content t : Text} (h : Quotes content t) (rest : Text) :
    readQuoted (t ++ rest) = some (content, rest) := by
  obtain ⟨hmark, hfree⟩ := h
  next mark =>
    have hq : (mark == '"' || mark == '\'') = true := by
      rcases hmark with rfl | rfl <;> rfl
    have hcut : content ++ [mark] ++ rest = content ++ mark :: rest := by simp
    rw [List.cons_append, readQuoted, hq, hcut, cutAt_append hfree]
    rfl

/-- A quoted text begins with its mark. -/
theorem exists_cons_of_quotes {content t : Text} (h : Quotes content t) :
    ∃ mark rest, t = mark :: rest ∧ (mark = '"' ∨ mark = '\'') := by
  obtain ⟨hmark, _⟩ := h
  exact ⟨_, _, rfl, hmark⟩

theorem isBlank_of_mark {mark : Char} (h : mark = '"' ∨ mark = '\'') : isBlank mark = false := by
  rcases h with rfl | rfl <;> rfl

/-! ## Parameters -/

/-- What stands before the name of a parameter. -/
def starText (star : Bool) : Text := if star then ['*'] else []

/-- How a parameter is written. -/
inductive Parameter.Spells : Parameter → Text → Prop where
  | plain {name : Text} (star : Bool) (hname : isName name = true) :
      Spells ⟨name, none, star⟩ (starText star ++ name)
  | withDefault {name d q : Text} (star : Bool) (hname : isName name = true) (hq : Quotes d q) :
      Spells ⟨name, some d, star⟩ (starText star ++ (name ++ '=' :: q))

/-- What may follow a parameter: a blank or the colon. -/
def Stops (rest : Text) : Prop := ∃ c more, rest = c :: more ∧ (isBlank c = true ∨ c = ':')

theorem Stops.isNameRest_head {rest : Text} (h : Stops rest) :
    ∀ c ∈ rest.head?, isNameRest c = false := by
  obtain ⟨c, more, rfl, hc⟩ := h
  refine isNameRest_head_cons ?_ more
  rcases hc with hc | rfl
  · exact isNameRest_of_isBlank hc
  · rfl

theorem Stops.readDefault {rest : Text} (h : Stops rest) : readDefault rest = none := by
  obtain ⟨c, more, rfl, hc⟩ := h
  unfold Runbook.readDefault
  split
  · next heq =>
      cases heq
      rcases hc with hc | hc
      · exact absurd hc (by decide)
      · exact absurd hc (by decide)
  · rfl

theorem readDefault_eq_some {t d after : Text} (h : readDefault t = some (d, after)) :
    ∃ rest, t = '=' :: rest ∧ readQuoted rest = some (d, after) := by
  unfold readDefault at h
  split at h
  · exact ⟨_, rfl, h⟩
  · cases h

theorem readStar_append {name : Text} (star : Bool) (hname : isName name = true) (rest : Text) :
    readStar (starText star ++ (name ++ rest)) = (star, name ++ rest) := by
  obtain ⟨c, tail, rfl, hc, _⟩ := exists_cons_of_isName hname
  cases star with
  | true => rfl
  | false =>
      have hne : c ≠ '*' := by
        rintro rfl
        exact absurd hc (by decide)
      show readStar (c :: (tail ++ rest)) = _
      unfold readStar
      split
      · next heq => exact absurd (List.cons.inj heq).1 hne
      · rfl

theorem starText_append_readStar (t : Text) : starText (readStar t).1 ++ (readStar t).2 = t := by
  unfold readStar
  split
  · rfl
  · rfl

/-- A parameter begins with no blank. -/
theorem exists_cons_of_spells {p : Parameter} {t : Text} (h : p.Spells t) :
    ∃ c rest, t = c :: rest ∧ (c = '*' ∨ isNameStart c = true) := by
  have hstart : ∀ {name : Text} (star : Bool) (more : Text), isName name = true →
      ∃ c rest, starText star ++ (name ++ more) = c :: rest ∧
        (c = '*' ∨ isNameStart c = true) := by
    intro name star more hname
    obtain ⟨c, tail, rfl, hc, _⟩ := exists_cons_of_isName hname
    cases star with
    | true => exact ⟨'*', _, rfl, Or.inl rfl⟩
    | false => exact ⟨c, _, rfl, Or.inr hc⟩
  cases h with
  | plain star hname => simpa using hstart star [] hname
  | withDefault star hname hq => exact hstart star _ hname

theorem isBlank_of_spells_head {c : Char} (h : c = '*' ∨ isNameStart c = true) :
    isBlank c = false := by
  rcases h with rfl | h
  · rfl
  · exact isBlank_of_isNameRest (isNameRest_of_isNameStart h)

/-- Blanks before a parameter are all that can be cut off. -/
theorem trimStart_append_of_spells {p : Parameter} {b t : Text} (hb : IsBlankText b)
    (hp : p.Spells t) (rest : Text) : trimStart (b ++ (t ++ rest)) = t ++ rest := by
  obtain ⟨c, more, rfl, hc⟩ := exists_cons_of_spells hp
  rw [trimStart_append_of_blank hb]
  exact trimStart_of_head (isBlank_of_spells_head hc) _

/-- A parameter is read behind blanks. -/
theorem readParameter_append {p : Parameter} {b t rest : Text} (hb : IsBlankText b) (hne : b ≠ [])
    (hp : p.Spells t) (hrest : Stops rest) : readParameter (b ++ (t ++ rest)) = some (p, rest) := by
  obtain ⟨c, b, rfl⟩ := List.exists_cons_of_ne_nil hne
  have hskip : trimStart (b ++ (t ++ rest)) = t ++ rest :=
    trimStart_append_of_spells (fun x hx => hb x (by simp [hx])) hp rest
  rw [List.cons_append, readParameter, if_pos (hb c (by simp)), hskip]
  cases hp with
  | plain star hname =>
      rw [List.append_assoc, readStar_append star hname]
      dsimp only
      rw [readName_append_of_isName hname hrest.isNameRest_head]
      dsimp only
      rw [hrest.readDefault]
  | @withDefault name d q star hname hq =>
      have hassoc : starText star ++ (name ++ '=' :: q) ++ rest =
          starText star ++ (name ++ '=' :: (q ++ rest)) := by simp
      have hstop := isNameRest_head_cons (c := '=') rfl (q ++ rest)
      rw [hassoc, readStar_append star hname]
      dsimp only
      rw [readName_append_of_isName hname hstop]
      dsimp only
      rw [readDefault, readQuoted_append hq]

/-- How parameters are written, each behind blanks. -/
inductive SpellsParameters : List Parameter → Text → Prop where
  | nil : SpellsParameters [] []
  | cons {p : Parameter} {ps : List Parameter} {b t u : Text} (hb : IsBlankText b) (hne : b ≠ [])
      (hp : p.Spells t) (hps : SpellsParameters ps u) :
      SpellsParameters (p :: ps) (b ++ (t ++ u))

/-- Where the blanks at the start end in a colon or in the end of the text, no parameter stands. -/
def EndsParameters (t : Text) : Prop := trimStart t = [] ∨ ∃ more, trimStart t = ':' :: more

theorem EndsParameters.readParameter {t : Text} (h : EndsParameters t) :
    readParameter t = none := by
  cases t with
  | nil => rfl
  | cons c t =>
      rw [EndsParameters, trimStart_cons] at h
      rw [Runbook.readParameter]
      split
      · next hc =>
          rw [if_pos hc] at h
          rcases h with h | ⟨more, h⟩
          · rw [h]
            rfl
          · rw [h]
            rfl
      · rfl

theorem EndsParameters.readDefault {t : Text} (h : EndsParameters t) : readDefault t = none := by
  unfold Runbook.readDefault
  split
  · next rest =>
      rw [EndsParameters, trimStart_of_head rfl] at h
      rcases h with h | ⟨more, h⟩
      · cases h
      · cases h
  · rfl

theorem EndsParameters.readParameters {t : Text} (h : EndsParameters t) :
    readParameters t = ([], t) := by
  rw [Runbook.readParameters, h.readParameter]

theorem trimStart_append_colon {b : Text} (hb : IsBlankText b) (more : Text) :
    trimStart (b ++ ':' :: more) = ':' :: more := by
  rw [trimStart_append_of_blank hb]
  exact trimStart_of_head rfl _

theorem endsParameters_append_colon {b : Text} (hb : IsBlankText b) (more : Text) :
    EndsParameters (b ++ ':' :: more) :=
  Or.inr ⟨more, trimStart_append_colon hb more⟩

theorem stops_append_colon {b : Text} (hb : IsBlankText b) (more : Text) :
    Stops (b ++ ':' :: more) := by
  cases b with
  | nil => exact ⟨':', more, rfl, Or.inr rfl⟩
  | cons c b => exact ⟨c, b ++ ':' :: more, rfl, Or.inl (hb c (by simp))⟩

theorem SpellsParameters.stops {ps : List Parameter} {t : Text} (h : SpellsParameters ps t)
    {rest : Text} (hrest : Stops rest) : Stops (t ++ rest) := by
  cases h with
  | nil => exact hrest
  | @cons p ps b t u hb hne hp hps =>
      obtain ⟨c, b, rfl⟩ := List.exists_cons_of_ne_nil hne
      exact ⟨c, _, rfl, Or.inl (hb c (by simp))⟩

/-- Parameters are read up to the colon. -/
theorem readParameters_append {ps : List Parameter} {t b : Text} (h : SpellsParameters ps t)
    (hb : IsBlankText b) (more : Text) :
    readParameters (t ++ (b ++ ':' :: more)) = (ps, b ++ ':' :: more) := by
  induction h with
  | nil =>
      exact (endsParameters_append_colon hb more).readParameters
  | @cons p ps b' t u hb' hne hp hps ih =>
      have hread : readParameter (b' ++ (t ++ u) ++ (b ++ ':' :: more)) =
          some (p, u ++ (b ++ ':' :: more)) := by
        rw [List.append_assoc, List.append_assoc]
        exact readParameter_append hb' hne hp (hps.stops (stops_append_colon hb more))
      rw [readParameters, hread]
      dsimp only
      rw [ih]

/-! ## Headers -/

/-- How a header is written: a name, parameters behind blanks, and a colon among blanks. -/
inductive SpellsHeader (name : Text) (ps : List Parameter) : Text → Prop where
  | intro {t b b' : Text} (hname : isName name = true) (hps : SpellsParameters ps t)
      (hb : IsBlankText b) (hb' : IsBlankText b') :
      SpellsHeader name ps (name ++ (t ++ (b ++ ':' :: b')))

/-- Behind the parameters stands a colon and nothing else but blanks. -/
theorem tailFault?_eq_none_iff {name tail : Text} :
    tailFault? name tail = none ↔ trim tail = [':'] := by
  constructor
  · intro h
    unfold tailFault? at h
    split at h
    · cases h
    · next more _ heq =>
        split at h
        · next hempty =>
            have hmore : ∀ c ∈ more, isBlank c = true :=
              (trim_eq_nil_iff more).mp (List.isEmpty_iff.mp hempty)
            have hend := trimEnd_trim tail
            rw [heq] at hend ⊢
            rw [← hend]
            exact trimEnd_append_of_blank [':'] hmore
        · cases h
    · cases h
  · intro h
    unfold tailFault?
    rw [h]
    rfl

theorem tailFault?_append_colon (name : Text) {b b' : Text} (hb : IsBlankText b)
    (hb' : IsBlankText b') : tailFault? name (b ++ ':' :: b') = none := by
  rw [tailFault?_eq_none_iff]
  unfold trim
  rw [trimStart_append_colon hb]
  exact trimEnd_append_of_blank [':'] hb'

/-- A header is read. -/
theorem exists_readHeader {name line : Text} {ps : List Parameter}
    (h : SpellsHeader name ps line) :
    ∃ tail, readHeader line = some (name, ps, tail) ∧ tailFault? name tail = none := by
  obtain ⟨hname, hps, hb, hb'⟩ := h
  next t b b' =>
    refine ⟨b ++ ':' :: b', ?_, tailFault?_append_colon name hb hb'⟩
    have hstop := hps.stops (stops_append_colon hb b')
    unfold readHeader
    rw [readName_append_of_isName hname hstop.isNameRest_head, Option.map_some]
    dsimp only
    rw [readParameters_append hps hb]

/-- **A header declares the name and the parameters that it writes**, if they are in order. -/
theorem declaration_of_spells {name line : Text} {ps : List Parameter}
    (h : SpellsHeader name ps line) (hord : OrderedParameters ps) :
    declaration line = .ok (name, ps) := by
  obtain ⟨tail, hread, htail⟩ := exists_readHeader h
  exact declaration_eq_ok_iff.mpr ⟨tail, hread, htail, hord⟩

/-- A written header begins with a letter or an underscore. -/
theorem exists_cons_of_spellsHeader {name line : Text} {ps : List Parameter}
    (h : SpellsHeader name ps line) :
    ∃ c rest, line = c :: rest ∧ isBlank c = false ∧ c ≠ '#' := by
  obtain ⟨hname, _, _, _⟩ := h
  obtain ⟨c, tail, rfl, hc, _⟩ := exists_cons_of_isName hname
  refine ⟨c, _, rfl, isBlank_of_isNameRest (isNameRest_of_isNameStart hc), ?_⟩
  rintro rfl
  cases hc

/-- The blanks at the end of a header can be cut off. -/
theorem SpellsHeader.trimEnd {name line : Text} {ps : List Parameter}
    (h : SpellsHeader name ps line) : SpellsHeader name ps (trimEnd line) := by
  obtain ⟨hname, hps, hb, hb'⟩ := h
  next t b b' =>
    have hline : name ++ (t ++ (b ++ ':' :: b')) = (name ++ (t ++ (b ++ [':']))) ++ b' := by simp
    have hend : Text.trimEnd (name ++ (t ++ (b ++ [':']))) = name ++ (t ++ (b ++ [':'])) := by
      have hlast := trimEnd_of_last (name ++ (t ++ b)) (c := ':') rfl
      simpa using hlast
    rw [hline, trimEnd_append_of_blank _ hb', hend]
    exact SpellsHeader.intro hname hps hb isBlankText_nil

/-! ## Headers and settings -/

/-- What follows the key of a setting ends the parameters of a header, but not as a header
does: it is nothing or an assignment. -/
theorem trim_ne_colon_of_assignment {t v : Text} (h : trimStart t = ':' :: '=' :: v) :
    trim t ≠ [':'] := by
  intro heq
  obtain ⟨b, hb, hcut⟩ := exists_append_trimEnd (trimStart t)
  have hend : trimEnd (trimStart t) = [':'] := heq
  rw [hend, h, List.singleton_append, List.cons.injEq] at hcut
  have hmark := hb '=' (by rw [← hcut.2]; simp)
  exact absurd hmark (by decide)

/-- A text that begins with a name and no star is read as a parameter without a default, where no
default follows. -/
theorem readParameter_of_readName {c : Char} {rest key after : Text} (hc : isBlank c = true)
    (hkey : readName (trimStart rest) = some (key, after)) (hdefault : readDefault after = none) :
    readParameter (c :: rest) = some (⟨key, none, false⟩, after) := by
  have hstar : readStar (trimStart rest) = (false, trimStart rest) := by
    unfold readStar
    split
    · next heq =>
        rw [heq, readName, if_neg (by decide)] at hkey
        cases hkey
    · rfl
  rw [readParameter, if_pos hc, hstar]
  dsimp only
  rw [hkey]
  dsimp only
  rw [hdefault]

/-- **A header is no setting.** Of a setting the reader of headers would take the word `set` for
the name and the key for a parameter, but what is left is not a colon alone. -/
theorem readSetting_eq_none {name line tail : Text} {ps : List Parameter}
    (h : readHeader line = some (name, ps, tail)) (htail : tailFault? name tail = none) :
    readSetting line = none := by
  rw [tailFault?_eq_none_iff] at htail
  unfold readSetting
  split
  · next c rest =>
      split
      · next hc =>
          split
          · next key after hkey =>
              -- what the reader of headers finds in the line, whatever follows the key
              have htail' : EndsParameters after → tail = after := by
                intro hends
                have hset : readName ('s' :: 'e' :: 't' :: c :: rest) =
                    some (['s', 'e', 't'], c :: rest) := by
                  have hname : isName ['s', 'e', 't'] = true := rfl
                  exact readName_append_of_isName hname
                    (isNameRest_head_cons (isNameRest_of_isBlank hc) rest)
                unfold readHeader at h
                rw [hset, Option.map_some] at h
                dsimp only at h
                rw [readParameters, readParameter_of_readName hc hkey hends.readDefault] at h
                dsimp only at h
                rw [hends.readParameters] at h
                cases h
                rfl
              split
              · next hafter =>
                  have hblank : trim after = [] := by
                    unfold trim
                    rw [hafter]
                    rfl
                  rw [htail' (Or.inl hafter), hblank] at htail
                  cases htail
              · next v hafter =>
                  rw [htail' (Or.inr ⟨_, hafter⟩)] at htail
                  exact absurd htail (trim_ne_colon_of_assignment hafter)
              · rfl
          · rfl
      · rfl
  · rfl

/-! ## Settings -/

/-- The start of a setting, up to its key. -/
def settingStart (key : Text) : Text := 's' :: 'e' :: 't' :: ' ' :: key

theorem isBlank_space : isBlank ' ' = true := rfl

/-- What is read as a setting: the word `set`, a key behind blanks, and then nothing or an
assignment. -/
theorem readSetting_eq_some_iff {t key : Text} {value : Option Text} :
    readSetting t = some (key, value) ↔ ∃ c rest after, t = 's' :: 'e' :: 't' :: c :: rest ∧
      isBlank c = true ∧ readName (trimStart rest) = some (key, after) ∧
      (trimStart after = [] ∧ value = none ∨
        ∃ v, trimStart after = ':' :: '=' :: v ∧ value = some (trim v)) := by
  constructor
  · intro h
    unfold readSetting at h
    split at h
    · next c rest =>
        split at h
        · next hc =>
            split at h
            · next key' after hkey =>
                split at h
                · next hafter =>
                    cases h
                    exact ⟨c, rest, after, rfl, hc, hkey, Or.inl ⟨hafter, rfl⟩⟩
                · next v hafter =>
                    cases h
                    exact ⟨c, rest, after, rfl, hc, hkey, Or.inr ⟨v, hafter, rfl⟩⟩
                · cases h
            · cases h
        · cases h
    · cases h
  · rintro ⟨c, rest, after, rfl, hc, hkey, hafter⟩
    rw [readSetting, if_pos hc, hkey]
    dsimp only
    rcases hafter with ⟨hnil, rfl⟩ | ⟨v, hassign, rfl⟩
    · rw [hnil]
    · rw [hassign]
      rfl

theorem readSetting_flag {key : Text} (h : isName key = true) :
    readSetting (settingStart key) = some (key, none) := by
  have hread : readName (key ++ []) = some (key, []) := readName_append_of_isName h (by simp)
  rw [List.append_nil] at hread
  have hskip := trimStart_append_of_isName h []
  rw [List.append_nil] at hskip
  rw [settingStart, readSetting, if_pos isBlank_space, hskip, hread]
  rfl

theorem readSetting_assignment {key : Text} (h : isName key = true) (value : Text) :
    readSetting (settingStart key ++ ' ' :: ':' :: '=' :: value) =
      some (key, some (trim value)) := by
  have hread := readName_append_of_isName h
    (isNameRest_head_cons (c := ' ') rfl (':' :: '=' :: value))
  show readSetting ('s' :: 'e' :: 't' :: ' ' :: (key ++ ' ' :: ':' :: '=' :: value)) = _
  rw [readSetting, if_pos isBlank_space, trimStart_append_of_isName h, hread]
  rfl

/-! ## Lists -/

/-- How a list of quoted texts is written behind its opening bracket: among blanks, a comma
follows each text but the last, and may follow the last too. -/
inductive SpellsItems : List Text → Text → Prop where
  | nil : SpellsItems [] [']']
  | last {item q b : Text} (hq : Quotes item q) (hb : IsBlankText b) :
      SpellsItems [item] (q ++ (b ++ [']']))
  | cons {item q b b' t : Text} {items : List Text} (hq : Quotes item q) (hb : IsBlankText b)
      (hb' : IsBlankText b') (ht : SpellsItems items t) :
      SpellsItems (item :: items) (q ++ (b ++ ',' :: (b' ++ t)))

/-- How a list of quoted texts is written. -/
inductive SpellsList (items : List Text) : Text → Prop where
  | intro {b t : Text} (hb : IsBlankText b) (ht : SpellsItems items t) :
      SpellsList items ('[' :: (b ++ t))

theorem trimStart_append_of_spellsItems {items : List Text} {b t : Text} (hb : IsBlankText b)
    (h : SpellsItems items t) : trimStart (b ++ t) = t := by
  have hquoted : ∀ {item q : Text} (more : Text), Quotes item q →
      trimStart (q ++ more) = q ++ more := by
    intro item q more hq
    obtain ⟨mark, rest, rfl, hmark⟩ := exists_cons_of_quotes hq
    exact trimStart_of_head (isBlank_of_mark hmark) _
  rw [trimStart_append_of_blank hb]
  cases h with
  | nil => rfl
  | last hq hb => exact hquoted _ hq
  | cons hq hb hb' ht => exact hquoted _ hq

theorem ne_bracket_of_quotes {item q : Text} (h : Quotes item q) (more : Text) :
    ¬ (q ++ more == [']']) = true := by
  obtain ⟨mark, rest, rfl, hmark⟩ := exists_cons_of_quotes h
  intro heq
  rw [beq_iff_eq, List.cons_append, List.cons.injEq] at heq
  rcases hmark with rfl | rfl
  · exact absurd heq.1 (by decide)
  · exact absurd heq.1 (by decide)

theorem readItems_last {item q after : Text} (hq : Quotes item q)
    (hafter : trimStart after = [']']) : readItems (q ++ after) = some [item] := by
  have hread := readQuoted_append hq after
  rw [readItems, if_neg (ne_bracket_of_quotes hq after)]
  split
  · next heq =>
      rw [hread] at heq
      cases heq
      split
      · rfl
      · next heq =>
          rw [hafter] at heq
          cases heq
      · next hne _ => exact absurd hafter hne
  · next heq =>
      rw [hread] at heq
      cases heq

theorem readItems_comma {item q after rest : Text} (hq : Quotes item q)
    (hafter : trimStart after = ',' :: rest) :
    readItems (q ++ after) = (item :: ·) <$> readItems (trimStart rest) := by
  have hread := readQuoted_append hq after
  rw [readItems, if_neg (ne_bracket_of_quotes hq after)]
  split
  · next heq =>
      rw [hread] at heq
      cases heq
      split
      · next heq =>
          rw [hafter] at heq
          cases heq
      · next heq =>
          rw [hafter] at heq
          cases heq
          rfl
      · next hne => exact absurd hafter (hne _)
  · next heq =>
      rw [hread] at heq
      cases heq

theorem readItems_of_spells {items : List Text} {t : Text} (h : SpellsItems items t) :
    readItems t = some items := by
  induction h with
  | nil =>
      rw [readItems]
      rfl
  | @last item q b hq hb =>
      refine readItems_last hq ?_
      rw [trimStart_append_of_blank hb]
      rfl
  | @cons item q b b' t items hq hb hb' ht ih =>
      have hafter : trimStart (b ++ ',' :: (b' ++ t)) = ',' :: (b' ++ t) := by
        rw [trimStart_append_of_blank hb]
        exact trimStart_of_head rfl _
      rw [readItems_comma hq hafter, trimStart_append_of_spellsItems hb' ht, ih]
      rfl

/-- **A list is read.** -/
theorem readList_of_spells {items : List Text} {t : Text} (h : SpellsList items t) :
    readList t = some items := by
  obtain ⟨hb, ht⟩ := h
  rw [readList, trimStart_append_of_spellsItems hb ht]
  exact readItems_of_spells ht

end Runbook
