import Runbook.Proofs.Recipe.Occurrences

set_option autoImplicit false

/-! # Templates cut at their placeholders

A cut lists the placeholders of a template with the texts between them. The texts between hold no
placeholder, so that a template has one cut only: its pieces, with neighbouring characters put
together. The places of the cut are all the places at which a placeholder stands in the template, in
order, and its names are those that the pieces name.
-/

namespace Runbook

/-! ## Cuts -/

/-- A placeholder of a cut template, and the gap between it and the placeholder before it. -/
structure Hole where
  gap : Text
  source : Text
  name : Text
  deriving DecidableEq, Repr

/-- A template cut at placeholders: these in order, and the gap behind the last one. -/
structure Cut where
  holes : List Hole
  last : Text
  deriving DecidableEq, Repr

namespace Cut

/-- The gaps with other texts in the place of the placeholders. -/
def filled (c : Cut) (fill : Hole → Text) : Text :=
  c.holes.flatMap (fun hole => hole.gap ++ fill hole) ++ c.last

/-- The names of the placeholders, in order. -/
def names (c : Cut) : List Text := c.holes.map (·.name)

/-- Whether a template has been cut at its placeholders: the parts put together are the template, and
no placeholder stands in a gap. -/
structure IsCutOf (c : Cut) (t : Text) : Prop where
  joined : c.filled (·.source) = t
  spelled : ∀ hole ∈ c.holes, SpellsPlaceholder hole.name hole.source
  gaps : ∀ hole ∈ c.holes, IsLiteral hole.gap
  last : IsLiteral c.last

/-- The places of the placeholders. -/
def occurrences (c : Cut) : List Occurrence := go c.holes
where
  /-- The places of some of the placeholders, in the text that begins with the first gap. -/
  go : List Hole → List Occurrence
    | [] => []
    | hole :: more =>
        ⟨hole.gap, hole.source, hole.name⟩ :: (go more).map (·.behind (hole.gap ++ hole.source))

variable {c : Cut} {t : Text} {hole : Hole} {more : List Hole} {last : Text} {o : Occurrence}

theorem filled_cons (hole : Hole) (more : List Hole) (last : Text) (fill : Hole → Text) :
    filled ⟨hole :: more, last⟩ fill = hole.gap ++ (fill hole ++ filled ⟨more, last⟩ fill) := by
  unfold filled
  rw [List.flatMap_cons, List.append_assoc, List.append_assoc]

theorem isCutOf_nil_iff : IsCutOf ⟨[], last⟩ t ↔ last = t ∧ IsLiteral t := by
  constructor
  · rintro ⟨rfl, _, _, hlast⟩
    exact ⟨rfl, hlast⟩
  · rintro ⟨rfl, hlast⟩
    exact ⟨rfl, by simp, by simp, hlast⟩

/-- A cut begins with a gap and a placeholder, and what follows these is cut by itself. -/
theorem isCutOf_cons_iff : IsCutOf ⟨hole :: more, last⟩ t ↔
    IsLiteral hole.gap ∧ SpellsPlaceholder hole.name hole.source ∧
      ∃ rest, t = hole.gap ++ (hole.source ++ rest) ∧ IsCutOf ⟨more, last⟩ rest := by
  constructor
  · rintro ⟨rfl, hspelled, hgaps, hlast⟩
    rw [List.forall_mem_cons] at hspelled hgaps
    exact ⟨hgaps.1, hspelled.1, _, filled_cons hole more last _,
      ⟨rfl, hspelled.2, hgaps.2, hlast⟩⟩
  · rintro ⟨hgap, hspells, rest, rfl, hrest⟩
    refine ⟨?_, List.forall_mem_cons.mpr ⟨hspells, hrest.spelled⟩,
      List.forall_mem_cons.mpr ⟨hgap, hrest.gaps⟩, hrest.last⟩
    rw [filled_cons, hrest.joined]

/-! ## Cuts and pieces -/

/-- The pieces of a template that is cut. -/
def toPieces (c : Cut) : List Piece :=
  c.holes.flatMap (fun hole => hole.gap.map .literal ++ [.hole hole.source hole.name]) ++
    c.last.map .literal

theorem toPieces_cons (hole : Hole) (more : List Hole) (last : Text) :
    toPieces ⟨hole :: more, last⟩ =
      hole.gap.map .literal ++ .hole hole.source hole.name :: toPieces ⟨more, last⟩ := by
  unfold toPieces
  rw [List.flatMap_cons, List.append_assoc, List.append_assoc, List.singleton_append]

/-- **Reading a template gives the pieces of its cut.** -/
theorem IsCutOf.pieces_eq (h : c.IsCutOf t) : pieces t = c.toPieces := by
  obtain ⟨holes, last⟩ := c
  induction holes generalizing t with
  | nil =>
      obtain ⟨rfl, hlast⟩ := isCutOf_nil_iff.mp h
      exact pieces_of_isLiteral hlast
  | cons hole more ih =>
      obtain ⟨hgap, hspells, rest, rfl, hrest⟩ := isCutOf_cons_iff.mp h
      rw [pieces_append_placeholder hspells, pieces_of_isLiteral hgap, ih hrest, toPieces_cons]

/-- The cut of a template that a text is put before, if no placeholder begins in this text. -/
def after (u : Text) : Cut → Cut
  | ⟨[], last⟩ => ⟨[], u ++ last⟩
  | ⟨hole :: more, last⟩ => ⟨{ hole with gap := u ++ hole.gap } :: more, last⟩

theorem after_nil (c : Cut) : c.after [] = c := by
  obtain ⟨holes, last⟩ := c
  cases holes <;> rfl

theorem after_after (u v : Text) (c : Cut) : (c.after v).after u = c.after (u ++ v) := by
  obtain ⟨holes, last⟩ := c
  cases holes with
  | nil => simp [after]
  | cons hole more => simp [after]

/-- The cut that puts neighbouring characters together. -/
def ofPieces : List Piece → Cut
  | [] => ⟨[], []⟩
  | .literal ch :: ps => (ofPieces ps).after [ch]
  | .hole source name :: ps => ⟨⟨[], source, name⟩ :: (ofPieces ps).holes, (ofPieces ps).last⟩

theorem ofPieces_literals (u : Text) (ps : List Piece) :
    ofPieces (u.map .literal ++ ps) = (ofPieces ps).after u := by
  induction u with
  | nil => exact (after_nil _).symm
  | cons ch u ih =>
      rw [List.map_cons, List.cons_append, ofPieces, ih, after_after, List.singleton_append]

/-- Characters that were put together are taken apart by the pieces. -/
theorem ofPieces_toPieces (c : Cut) : ofPieces c.toPieces = c := by
  obtain ⟨holes, last⟩ := c
  induction holes with
  | nil =>
      have hliterals := ofPieces_literals last []
      rw [List.append_nil] at hliterals
      show ofPieces (last.map .literal) = _
      rw [hliterals]
      simp [ofPieces, after]
  | cons hole more ih =>
      rw [toPieces_cons, ofPieces_literals, ofPieces, ih]
      simp [after]

/-- A text in which no placeholder begins, not even with what follows, is put before a cut. -/
theorem IsCutOf.after_singleton {ch : Char} (h : c.IsCutOf t)
    (hread : readPlaceholder (ch :: t) = none) : (c.after [ch]).IsCutOf (ch :: t) := by
  obtain ⟨holes, last⟩ := c
  cases holes with
  | nil =>
      obtain ⟨rfl, hlast⟩ := isCutOf_nil_iff.mp h
      exact isCutOf_nil_iff.mpr ⟨rfl, isLiteral_cons_iff.mpr ⟨hread, hlast⟩⟩
  | cons hole more =>
      obtain ⟨hgap, hspells, rest, rfl, hrest⟩ := isCutOf_cons_iff.mp h
      rw [← List.cons_append] at hread
      have hgap' : IsLiteral (ch :: hole.gap) :=
        isLiteral_cons_iff.mpr ⟨readPlaceholder_eq_none_of_append hread, hgap⟩
      exact isCutOf_cons_iff.mpr ⟨hgap', hspells, rest, rfl, hrest⟩

/-- The pieces of a template make up a cut of it. -/
theorem isCutOf_ofPieces (t : Text) : (ofPieces (pieces t)).IsCutOf t := by
  fun_induction pieces t with
  | case1 => exact isCutOf_nil_iff.mpr ⟨rfl, isLiteral_nil⟩
  | case2 ch t source name rest hread ih =>
      obtain ⟨hspells, htext⟩ := spells_of_readPlaceholder hread
      rw [htext]
      exact isCutOf_cons_iff.mpr ⟨isLiteral_nil, hspells, rest, rfl, ih⟩
  | case3 ch t hread ih => exact ih.after_singleton hread

/-- **Every template has exactly one cut.** -/
theorem isCutOf_iff : c.IsCutOf t ↔ c = ofPieces (pieces t) := by
  constructor
  · intro h
    rw [h.pieces_eq, ofPieces_toPieces]
  · rintro rfl
    exact isCutOf_ofPieces t

/-- The names of a template are those of its cut. -/
theorem IsCutOf.placeholderNames_eq (h : c.IsCutOf t) : placeholderNames t = c.names := by
  have hnames : ∀ (u : Text) (ps : List Piece),
      (u.map Piece.literal ++ ps).filterMap Piece.name? = ps.filterMap Piece.name? := by
    intro u ps
    rw [List.filterMap_append, List.filterMap_map]
    simp [Function.comp_def, Piece.name?]
  unfold placeholderNames
  rw [h.pieces_eq]
  obtain ⟨holes, last⟩ := c
  clear h
  induction holes with
  | nil =>
      have hlast := hnames last []
      rw [List.append_nil] at hlast
      exact hlast
  | cons hole more ih =>
      rw [toPieces_cons, hnames]
      exact congrArg (hole.name :: ·) ih

/-! ## Cuts and occurrences -/

/-- What stands in a template is its first placeholder or stands behind that. -/
theorem standsIn_append_iff {gap source name rest : Text} (hgap : IsLiteral gap)
    (hspells : SpellsPlaceholder name source) : o.StandsIn (gap ++ (source ++ rest)) ↔
      o = ⟨gap, source, name⟩ ∨ ∃ o' : Occurrence, o'.StandsIn rest ∧ o'.behind (gap ++ source) = o := by
  have hfirst : Occurrence.StandsIn ⟨gap, source, name⟩ (gap ++ (source ++ rest)) :=
    Occurrence.standsIn_iff.mpr ⟨hspells, rest, rfl⟩
  constructor
  · intro h
    by_cases heq : o = ⟨gap, source, name⟩
    · exact Or.inl heq
    right
    rcases Occurrence.stop_le_start_of_ne h hfirst heq with hle | hle
    · -- it would stand in the gap
      have hprefix : o.before ++ o.source <+: gap := by
        refine List.prefix_of_prefix_length_le h.2 (List.prefix_append _ _) ?_
        rw [List.length_append]
        exact hle
      exact absurd ⟨h.1, hprefix⟩ (hgap o)
    · have hprefix : gap ++ source <+: o.before := by
        refine List.prefix_of_prefix_length_le hfirst.2 ((List.prefix_append _ _).trans h.2) ?_
        rw [List.length_append]
        exact hle
      obtain ⟨before, hbefore⟩ := hprefix
      refine ⟨⟨before, o.source, o.name⟩, ?_, ?_⟩
      · rw [← Occurrence.standsIn_behind_iff (u := gap ++ source), List.append_assoc]
        show SpellsPlaceholder _ _ ∧ gap ++ source ++ before ++ o.source <+: _
        rw [hbefore]
        exact h
      · obtain ⟨_, source', name'⟩ := o
        dsimp only at hbefore
        rw [← hbefore]
        rfl
  · rintro (rfl | ⟨o', h, rfl⟩)
    · exact hfirst
    · rw [← List.append_assoc]
      exact Occurrence.standsIn_behind_iff.mpr h

theorem occurrences_cons (hole : Hole) (more : List Hole) (last : Text) :
    occurrences ⟨hole :: more, last⟩ = ⟨hole.gap, hole.source, hole.name⟩ ::
      (occurrences ⟨more, last⟩).map (·.behind (hole.gap ++ hole.source)) := rfl

/-- **The places of a cut are all places of placeholders.** -/
theorem IsCutOf.mem_occurrences_iff (h : c.IsCutOf t) : o ∈ c.occurrences ↔ o.StandsIn t := by
  obtain ⟨holes, last⟩ := c
  induction holes generalizing t o with
  | nil =>
      obtain ⟨rfl, hlast⟩ := isCutOf_nil_iff.mp h
      exact ⟨fun hmem => absurd hmem List.not_mem_nil, fun ho => absurd ho (hlast o)⟩
  | cons hole more ih =>
      obtain ⟨hgap, hspells, rest, rfl, hrest⟩ := isCutOf_cons_iff.mp h
      rw [occurrences_cons, List.mem_cons, List.mem_map, standsIn_append_iff hgap hspells]
      simp only [ih hrest]

/-- The places of a cut are in order. -/
theorem pairwise_occurrences (c : Cut) : c.occurrences.Pairwise fun o o' => o.stop ≤ o'.start := by
  obtain ⟨holes, last⟩ := c
  induction holes with
  | nil => exact List.Pairwise.nil
  | cons hole more ih =>
      rw [occurrences_cons, List.pairwise_cons, List.pairwise_map]
      refine ⟨?_, ih.imp fun hle => ?_⟩
      · intro o ho
        obtain ⟨o', _, rfl⟩ := List.mem_map.mp ho
        simp only [Occurrence.stop, Occurrence.start, Occurrence.behind, List.length_append]
        omega
      · simp only [Occurrence.stop, Occurrence.start, Occurrence.behind, List.length_append] at hle ⊢
        omega

theorem map_name_occurrences (c : Cut) : c.occurrences.map (·.name) = c.names := by
  obtain ⟨holes, last⟩ := c
  induction holes with
  | nil => rfl
  | cons hole more ih =>
      rw [occurrences_cons, List.map_cons, List.map_map]
      exact congrArg (hole.name :: ·) ih

end Cut

/-- A template names what is named by the placeholders that stand in it. -/
theorem mem_placeholderNames_iff {t name : Text} :
    name ∈ placeholderNames t ↔ ∃ o : Occurrence, o.StandsIn t ∧ o.name = name := by
  have hcut := Cut.isCutOf_ofPieces t
  rw [hcut.placeholderNames_eq, ← Cut.map_name_occurrences, List.mem_map]
  simp only [hcut.mem_occurrences_iff]

end Runbook
