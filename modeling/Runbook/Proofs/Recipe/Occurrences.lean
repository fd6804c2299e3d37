import Runbook.Proofs.RecipeFile.Spelling

set_option autoImplicit false

/-! # Where placeholders stand

A placeholder is written as a name among blanks between double braces. Neither a blank nor a name
holds a brace, so that behind its two opening braces a placeholder holds no further one: of two
placeholders in a template, one ends before the other begins. The reader of pieces takes the leftmost
placeholder first, and because none overlaps another it misses none: the pieces of a template are
those of what stands before a placeholder, the placeholder, and those of what stands behind it.
-/

namespace Runbook

open Text

/-! ## Written placeholders -/

/-- How a placeholder is written. -/
inductive SpellsPlaceholder (name : Text) : Text → Prop where
  | intro {b b' : Text} (hname : isName name = true) (hb : IsBlankText b) (hb' : IsBlankText b') :
      SpellsPlaceholder name ('{' :: '{' :: (b ++ (name ++ (b' ++ ['}', '}']))))

variable {name source rest t : Text}

/-- A placeholder has no opening brace behind its first two. -/
theorem SpellsPlaceholder.exists_cons_cons (h : SpellsPlaceholder name source) :
    ∃ inner, source = '{' :: '{' :: inner ∧ inner ≠ [] ∧ '{' ∉ inner := by
  obtain ⟨hname, hb, hb'⟩ := h
  next b b' =>
    have hblank : ∀ {u : Text}, IsBlankText u → '{' ∉ u := fun hu hmem =>
      absurd (hu '{' hmem) (by decide)
    have hfree : '{' ∉ name := by
      obtain ⟨_, _, _, _, hall⟩ := exists_cons_of_isName hname
      exact fun hmem => absurd (hall '{' hmem) (by decide)
    refine ⟨_, rfl, by simp, ?_⟩
    rw [List.mem_append, List.mem_append, List.mem_append]
    rintro (hmem | hmem | hmem | hmem)
    · exact hblank hb hmem
    · exact hfree hmem
    · exact hblank hb' hmem
    · exact absurd hmem (by decide)

theorem SpellsPlaceholder.length_pos (h : SpellsPlaceholder name source) : 0 < source.length := by
  obtain ⟨inner, rfl, _, _⟩ := h.exists_cons_cons
  simp

/-- A placeholder is read, whatever stands behind it. -/
theorem readPlaceholder_append (h : SpellsPlaceholder name source) (rest : Text) :
    readPlaceholder (source ++ rest) = some (source, name, rest) := by
  obtain ⟨hname, hb, hb'⟩ := h
  next b b' =>
    have hbrace : trimStart ('}' :: '}' :: rest) = '}' :: '}' :: rest := trimStart_of_head rfl _
    have hinner : trimStart (b ++ (name ++ (b' ++ '}' :: '}' :: rest))) =
        name ++ (b' ++ '}' :: '}' :: rest) := by
      rw [trimStart_append_of_blank hb, trimStart_append_of_isName hname]
    have hstop : ∀ c ∈ (b' ++ '}' :: '}' :: rest).head?, isNameRest c = false := by
      cases b' with
      | nil => exact isNameRest_head_cons rfl _
      | cons c b' => exact isNameRest_head_cons (isNameRest_of_isBlank (hb' c (by simp))) _
    have hafter : trimStart (b' ++ '}' :: '}' :: rest) = '}' :: '}' :: rest := by
      rw [trimStart_append_of_blank hb', hbrace]
    have hassoc : '{' :: '{' :: (b ++ (name ++ (b' ++ ['}', '}']))) ++ rest =
        '{' :: '{' :: (b ++ (name ++ (b' ++ '}' :: '}' :: rest))) := by simp
    rw [hassoc, readPlaceholder, hinner, readName_append_of_isName hname hstop]
    dsimp only
    rw [hafter, ← hassoc, List.length_append]
    show some (List.take (_ + rest.length - rest.length) _, name, rest) = _
    rw [Nat.add_sub_cancel, List.take_left]

/-- What is read as a placeholder is written as one. -/
theorem spells_of_readPlaceholder (h : readPlaceholder t = some (source, name, rest)) :
    SpellsPlaceholder name source ∧ t = source ++ rest := by
  unfold readPlaceholder at h
  split at h
  · next inner =>
      split at h
      · next nm after hname =>
          split at h
          · next more hafter =>
              obtain ⟨b, hb, hinner⟩ := exists_append_trimStart inner
              obtain ⟨b', hb', hclose⟩ := exists_append_trimStart after
              rw [readName_append hname] at hinner
              rw [hafter] at hclose
              have htext : '{' :: '{' :: inner =
                  '{' :: '{' :: (b ++ (nm ++ (b' ++ ['}', '}']))) ++ more := by
                rw [hinner, hclose]
                simp
              rw [htext, List.length_append, Nat.add_sub_cancel, List.take_left] at h
              cases h
              exact ⟨SpellsPlaceholder.intro (isName_of_readName hname) hb hb', htext⟩
          · cases h
      · cases h
  · cases h

/-- Where no placeholder begins a text, none begins a part from its start. -/
theorem readPlaceholder_eq_none_of_append {u : Text} (h : readPlaceholder (t ++ u) = none) :
    readPlaceholder t = none := by
  by_contra hsome
  obtain ⟨⟨source, name, rest⟩, hread⟩ := Option.ne_none_iff_exists'.mp hsome
  obtain ⟨hspells, rfl⟩ := spells_of_readPlaceholder hread
  rw [List.append_assoc, readPlaceholder_append hspells] at h
  cases h

/-! ## Occurrences -/

/-- A place in a template: what stands before it, and the text and the name of a placeholder. -/
structure Occurrence where
  before : Text
  source : Text
  name : Text
  deriving DecidableEq, Repr

namespace Occurrence

variable {o o' : Occurrence} {u : Text}

/-- The number of characters before the placeholder. -/
def start (o : Occurrence) : Nat := o.before.length

/-- The number of characters up to its end. -/
def stop (o : Occurrence) : Nat := o.before.length + o.source.length

/-- Whether the placeholder stands at this place of a template. -/
def StandsIn (o : Occurrence) (t : Text) : Prop :=
  SpellsPlaceholder o.name o.source ∧ o.before ++ o.source <+: t

/-- The place in a template that another text is put before. -/
def behind (u : Text) (o : Occurrence) : Occurrence := { o with before := u ++ o.before }

theorem standsIn_iff : o.StandsIn t ↔
    SpellsPlaceholder o.name o.source ∧ ∃ rest, t = o.before ++ (o.source ++ rest) := by
  unfold StandsIn
  refine and_congr_right fun _ => exists_congr fun rest => ?_
  rw [List.append_assoc, eq_comm]

theorem standsIn_behind_iff : (o.behind u).StandsIn (u ++ t) ↔ o.StandsIn t := by
  unfold StandsIn behind
  rw [List.append_assoc, List.prefix_append_right_inj]

/-! ## No two overlap -/

/-- A character that a text does not hold stands behind it. -/
theorem length_le_of_append_eq {c : Char} {t m rest more : Text} (hfree : c ∉ t)
    (h : t ++ rest = m ++ c :: more) : t.length ≤ m.length := by
  rcases List.append_eq_append_iff.mp h with ⟨a, rfl, _⟩ | ⟨a, rfl, ha⟩
  · rw [List.length_append]
    omega
  · cases a with
    | nil => simp
    | cons d a =>
        obtain ⟨rfl, _⟩ := List.cons.inj ha
        simp at hfree

/-- Where one placeholder begins with or behind the start of another, it is the other or begins
behind its end. -/
theorem eq_or_stop_le_start (h : o.StandsIn t) (h' : o'.StandsIn t)
    (hle : o.before <+: o'.before) : o = o' ∨ o.stop ≤ o'.start := by
  obtain ⟨hspells, rest, htext⟩ := standsIn_iff.mp h
  obtain ⟨hspells', rest', htext'⟩ := standsIn_iff.mp h'
  obtain ⟨m, hm⟩ := hle
  rw [htext, ← hm, List.append_assoc, List.append_cancel_left_eq] at htext'
  obtain ⟨inner, hsource, hne, hfree⟩ := hspells.exists_cons_cons
  obtain ⟨inner', hsource', _, _⟩ := hspells'.exists_cons_cons
  unfold stop start
  rw [← hm, List.length_append]
  cases m with
  | nil =>
      left
      rw [List.nil_append] at htext'
      have hread := readPlaceholder_append hspells rest
      rw [htext', readPlaceholder_append hspells' rest'] at hread
      simp only [Option.some.injEq, Prod.mk.injEq] at hread
      obtain ⟨before, source, name⟩ := o
      obtain ⟨before', source', name'⟩ := o'
      dsimp only at hread hm
      rw [hread.1, hread.2.1, ← hm, List.append_nil]
  | cons c m =>
      -- the second of the other's braces cannot be the first of this one's, nor can a later one
      right
      rw [hsource, hsource'] at htext'
      have htail := (List.cons.inj htext').2
      have hlength : inner.length ≤ m.length - 1 := by
        cases m with
        | nil =>
            have hinner := (List.cons.inj htail).2
            exact length_le_of_append_eq (m := []) hfree hinner
        | cons d m =>
            have hinner := (List.cons.inj htail).2
            exact length_le_of_append_eq hfree hinner
      have hpos : 0 < inner.length := List.length_pos_iff.mpr hne
      rw [hsource]
      simp only [List.length_cons]
      omega

/-- **Two placeholders of a template do not overlap.** -/
theorem stop_le_start_of_ne (h : o.StandsIn t) (h' : o'.StandsIn t) (hne : o ≠ o') :
    o.stop ≤ o'.start ∨ o'.stop ≤ o.start := by
  have hprefix : o.before <+: t := (List.prefix_append _ _).trans h.2
  have hprefix' : o'.before <+: t := (List.prefix_append _ _).trans h'.2
  rcases List.prefix_or_prefix_of_prefix hprefix hprefix' with hle | hle
  · exact Or.inl ((eq_or_stop_le_start h h' hle).resolve_left hne)
  · exact Or.inr ((eq_or_stop_le_start h' h hle).resolve_left (Ne.symm hne))

end Occurrence

/-! ## Texts without placeholders -/

/-- Whether no placeholder stands in a text. -/
def IsLiteral (t : Text) : Prop := ∀ o : Occurrence, ¬ o.StandsIn t

theorem isLiteral_nil : IsLiteral [] := by
  rintro ⟨before, source, name⟩ ⟨hspells, hprefix⟩
  obtain ⟨inner, hsource, _, _⟩ := hspells.exists_cons_cons
  have hnil := List.prefix_nil.mp hprefix
  dsimp only at hsource hnil
  rw [hsource] at hnil
  simp at hnil

/-- No placeholder stands in a text if none begins with its first character and none stands
behind that. -/
theorem isLiteral_cons_iff {c : Char} :
    IsLiteral (c :: t) ↔ readPlaceholder (c :: t) = none ∧ IsLiteral t := by
  constructor
  · intro h
    constructor
    · by_contra hsome
      obtain ⟨⟨source, name, rest⟩, hread⟩ := Option.ne_none_iff_exists'.mp hsome
      obtain ⟨hspells, htext⟩ := spells_of_readPlaceholder hread
      exact h ⟨[], source, name⟩ ⟨hspells, rest, htext.symm⟩
    · intro o ho
      exact h (o.behind [c]) (Occurrence.standsIn_behind_iff.mpr ho)
  · rintro ⟨hread, ht⟩ o ho
    obtain ⟨hspells, rest, htext⟩ := Occurrence.standsIn_iff.mp ho
    obtain ⟨before, source, name⟩ := o
    cases before with
    | nil =>
        dsimp only at hspells htext
        rw [htext, List.nil_append, readPlaceholder_append hspells] at hread
        cases hread
    | cons d before =>
        obtain ⟨rfl, htext⟩ := List.cons.inj htext
        exact ht ⟨before, source, name⟩ (Occurrence.standsIn_iff.mpr ⟨hspells, rest, htext⟩)

/-! ## Pieces -/

theorem pieces_of_readPlaceholder {c : Char}
    (h : readPlaceholder (c :: t) = some (source, name, rest)) :
    pieces (c :: t) = .hole source name :: pieces rest := by
  rw [pieces]
  split
  · next heq =>
      rw [h] at heq
      cases heq
      rfl
  · next heq =>
      rw [h] at heq
      cases heq

theorem pieces_of_readPlaceholder_none {c : Char} (h : readPlaceholder (c :: t) = none) :
    pieces (c :: t) = .literal c :: pieces t := by
  rw [pieces]
  split
  · next heq =>
      rw [h] at heq
      cases heq
  · rfl

/-- The pieces of a text without placeholders are its characters. -/
theorem pieces_of_isLiteral (h : IsLiteral t) : pieces t = t.map .literal := by
  induction t with
  | nil => rw [pieces, List.map_nil]
  | cons c t ih =>
      obtain ⟨hread, ht⟩ := isLiteral_cons_iff.mp h
      rw [pieces_of_readPlaceholder_none hread, ih ht, List.map_cons]

/-- A placeholder further right does not make one begin at the start of a text. -/
theorem readPlaceholder_append_eq_none {c : Char} (hread : readPlaceholder (c :: t) = none)
    (h : SpellsPlaceholder name source) (rest : Text) :
    readPlaceholder (c :: (t ++ (source ++ rest))) = none := by
  by_contra hsome
  obtain ⟨⟨source', name', rest'⟩, hread'⟩ := Option.ne_none_iff_exists'.mp hsome
  obtain ⟨hspells', htext⟩ := spells_of_readPlaceholder hread'
  have hfirst : Occurrence.StandsIn ⟨[], source', name'⟩ (c :: (t ++ (source ++ rest))) :=
    ⟨hspells', rest', htext.symm⟩
  have hsecond : Occurrence.StandsIn ⟨c :: t, source, name⟩ (c :: (t ++ (source ++ rest))) :=
    Occurrence.standsIn_iff.mpr ⟨h, rest, rfl⟩
  have hstop := (Occurrence.eq_or_stop_le_start hfirst hsecond List.nil_prefix).resolve_left
    (fun heq => by cases heq)
  -- it would end before the other begins, and so be read without it
  have hle : source'.length ≤ (c :: t).length := by
    simpa [Occurrence.stop, Occurrence.start] using hstop
  obtain ⟨more, hmore⟩ : source' <+: c :: t :=
    List.prefix_of_prefix_length_le ⟨rest', htext.symm⟩ ⟨source ++ rest, rfl⟩ hle
  rw [← hmore, readPlaceholder_append hspells'] at hread
  cases hread

/-- **A placeholder is a piece wherever it stands**, and the texts before and behind it are cut by
themselves. -/
theorem pieces_append_placeholder (h : SpellsPlaceholder name source) (before rest : Text) :
    pieces (before ++ (source ++ rest)) = pieces before ++ .hole source name :: pieces rest := by
  fun_induction pieces before with
  | case1 =>
      obtain ⟨inner, hsource, _, _⟩ := h.exists_cons_cons
      have hread := readPlaceholder_append h rest
      rw [List.nil_append]
      rw [hsource] at hread ⊢
      exact pieces_of_readPlaceholder hread
  | case2 c before source' name' before' hread ih =>
      -- the placeholder read first ends before this one begins, so that it is read again
      obtain ⟨hspells', htext⟩ := spells_of_readPlaceholder hread
      have hread' : readPlaceholder (c :: (before ++ (source ++ rest))) =
          some (source', name', before' ++ (source ++ rest)) := by
        rw [← List.cons_append, htext, List.append_assoc]
        exact readPlaceholder_append hspells' _
      rw [List.cons_append, pieces_of_readPlaceholder hread', ih]
      rfl
  | case3 c before hread ih =>
      rw [List.cons_append,
        pieces_of_readPlaceholder_none (readPlaceholder_append_eq_none hread h rest), ih]
      rfl

end Runbook
