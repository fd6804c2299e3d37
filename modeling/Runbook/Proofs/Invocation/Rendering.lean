import Runbook.Invocation.Binding
import Runbook.Proofs.Recipe.Cuts
import Runbook.Proofs.RecipeFile.Checked

set_option autoImplicit false

/-! # How lines are rendered

A line is rendered by putting the text of a value in the place of every placeholder of its cut, all at
once: the gaps stay as they are, and nothing is looked for in a text that was put in. The lines of a
body are rendered in order, and the first placeholder that names nothing bound, in the order of lines
and from left to right on a line, is the one that rendering fails on. The placeholders that a recipe
lists are in this order too, so that what is checked on the list is what rendering meets.
-/

namespace Runbook

namespace Recipe

variable {r : Recipe} {b : Bindings} {t : Text}

/-! ## Pieces -/

/-- Pieces are rendered one part after the other. -/
theorem renderPieces_append (ps qs : List Piece) : r.renderPieces b (ps ++ qs) = (do
    let x ← r.renderPieces b ps
    let y ← r.renderPieces b qs
    .ok (x ++ y)) := by
  induction ps with
  | nil =>
      show r.renderPieces b qs = (r.renderPieces b qs >>= fun y => .ok ([] ++ y))
      cases r.renderPieces b qs <;> rfl
  | cons piece ps ih =>
      cases piece with
      | literal c =>
          rw [List.cons_append, renderPieces, renderPieces, ih]
          cases r.renderPieces b ps with
          | error fault => rfl
          | ok x => cases r.renderPieces b qs <;> rfl
      | hole source name =>
          rw [List.cons_append, renderPieces, renderPieces]
          cases b.get? name with
          | none => rfl
          | some v =>
              dsimp only
              rw [ih]
              cases r.renderPieces b ps with
              | error fault => rfl
              | ok x =>
                  cases r.renderPieces b qs with
                  | error fault => rfl
                  | ok y => exact congrArg Except.ok (List.append_assoc v.text x y).symm

/-- Characters stand for themselves. -/
theorem renderPieces_literals (u : Text) : r.renderPieces b (u.map .literal) = .ok u := by
  induction u with
  | nil => rfl
  | cons c u ih =>
      rw [List.map_cons, renderPieces, ih]
      rfl

/-- Pieces are rendered up to the first name that nothing is bound to. -/
theorem renderPieces_cases (ps : List Piece) :
    (∃ name, (ps.filterMap Piece.name?).find? (fun name => (b.get? name).isNone) = some name ∧
      r.renderPieces b ps = .error (.unresolved r.name name)) ∨
    ((ps.filterMap Piece.name?).find? (fun name => (b.get? name).isNone) = none ∧
      ∃ u, r.renderPieces b ps = .ok u) := by
  induction ps with
  | nil => exact Or.inr ⟨rfl, [], rfl⟩
  | cons piece ps ih =>
      cases piece with
      | literal c =>
          rw [List.filterMap_cons_none rfl, renderPieces]
          rcases ih with ⟨name, hfind, herror⟩ | ⟨hfind, u, hok⟩
          · exact Or.inl ⟨name, hfind, by rw [herror]; rfl⟩
          · exact Or.inr ⟨hfind, c :: u, by rw [hok]; rfl⟩
      | hole source name =>
          have hnames : (Piece.hole source name :: ps).filterMap Piece.name? =
              name :: ps.filterMap Piece.name? := rfl
          rw [hnames, renderPieces]
          cases hget : b.get? name with
          | none => exact Or.inl ⟨name, by rw [List.find?_cons_of_pos (by simp [hget])], rfl⟩
          | some v =>
              rw [List.find?_cons_of_neg (by simp [hget])]
              rcases ih with ⟨other, hfind, herror⟩ | ⟨hfind, u, hok⟩
              · exact Or.inl ⟨other, hfind, by dsimp only; rw [herror]; rfl⟩
              · exact Or.inr ⟨hfind, v.text ++ u, by dsimp only; rw [hok]; rfl⟩

/-! ## One line -/

theorem renderLine_cases (t : Text) :
    (∃ name, (placeholderNames t).find? (fun name => (b.get? name).isNone) = some name ∧
      r.renderLine b t = .error (.unresolved r.name name)) ∨
    ((placeholderNames t).find? (fun name => (b.get? name).isNone) = none ∧
      ∃ u, r.renderLine b t = .ok u) :=
  renderPieces_cases (pieces t)

/-- **A line is rendered by filling its cut.** -/
theorem renderLine_of_isCutOf {c : Cut} (h : c.IsCutOf t) {value : Text → Bound}
    (hvalue : ∀ name ∈ c.names, b.get? name = some (value name)) :
    r.renderLine b t = .ok (c.filled fun hole => (value hole.name).text) := by
  unfold renderLine
  rw [h.pieces_eq]
  obtain ⟨holes, last⟩ := c
  clear h
  induction holes with
  | nil => exact renderPieces_literals last
  | cons hole more ih =>
      have hmore := ih fun name hname => hvalue name (List.mem_cons_of_mem _ hname)
      have hhole := hvalue hole.name List.mem_cons_self
      rw [Cut.toPieces_cons, renderPieces_append, renderPieces_literals, renderPieces, hhole,
        Cut.filled_cons]
      dsimp only
      rw [hmore]
      rfl

/-- Whether a placeholder of a name is rendered as a text wherever it stands in a line, what stands
before and behind it being rendered by itself. -/
def Shows (r : Recipe) (b : Bindings) (name shown : Text) : Prop :=
  ∀ source, SpellsPlaceholder name source → ∀ before behind,
    r.renderLine b (before ++ (source ++ behind)) = (do
      let x ← r.renderLine b before
      let y ← r.renderLine b behind
      .ok (x ++ (shown ++ y)))

/-- A placeholder is rendered as the value that is bound to its name. -/
theorem shows_of_get? {name : Text} {v : Bound} (h : b.get? name = some v) :
    r.Shows b name v.text := by
  intro source hspells before behind
  unfold renderLine
  rw [pieces_append_placeholder hspells, renderPieces_append, renderPieces, h]
  cases r.renderPieces b (pieces before) with
  | error fault => rfl
  | ok x => cases r.renderPieces b (pieces behind) <;> rfl

/-! ## The list of placeholders -/

/-- The placeholders of further lines, the first of which has place `n`. -/
def placeholdersFrom (n : Nat) (ls : List Text) : List (Nat × Text) :=
  (ls.zipIdx n).flatMap fun (line, place) => (placeholderNames line).map (place, ·)

theorem placeholders_eq (r : Recipe) : r.placeholders = placeholdersFrom 0 r.body := rfl

theorem placeholdersFrom_cons (n : Nat) (line : Text) (more : List Text) :
    placeholdersFrom n (line :: more) =
      (placeholderNames line).map (n, ·) ++ placeholdersFrom (n + 1) more := by
  unfold placeholdersFrom
  rw [List.zipIdx_cons, List.flatMap_cons]

theorem le_of_mem_placeholdersFrom {n : Nat} {ls : List Text} {entry : Nat × Text}
    (h : entry ∈ placeholdersFrom n ls) : n ≤ entry.1 := by
  obtain ⟨⟨line, place⟩, hline, hentry⟩ := List.mem_flatMap.mp h
  obtain ⟨name, _, rfl⟩ := List.mem_map.mp hentry
  exact List.le_snd_of_mem_zipIdx hline

/-- Placeholders are listed line by line. -/
theorem pairwise_placeholdersFrom (n : Nat) (ls : List Text) :
    (placeholdersFrom n ls).Pairwise fun entry entry' => entry.1 ≤ entry'.1 := by
  induction ls generalizing n with
  | nil => exact List.Pairwise.nil
  | cons line more ih =>
      rw [placeholdersFrom_cons, List.pairwise_append, List.pairwise_map]
      refine ⟨List.pairwise_of_forall fun _ _ => Nat.le_refl n, ih (n + 1), ?_⟩
      intro entry hentry entry' hentry'
      obtain ⟨name, _, rfl⟩ := List.mem_map.mp hentry
      have := le_of_mem_placeholdersFrom hentry'
      dsimp only
      omega

/-- Of the line at a place, its names are listed, from left to right. -/
theorem filter_placeholdersFrom (n place : Nat) {ls : List Text} (h : ls[place]? = some t) :
    (placeholdersFrom n ls).filter (fun entry => entry.1 == n + place) =
      (placeholderNames t).map (n + place, ·) := by
  induction ls generalizing n place with
  | nil => cases h
  | cons line more ih =>
      rw [placeholdersFrom_cons, List.filter_append]
      cases place with
      | zero =>
          cases h
          have hmore : (placeholdersFrom (n + 1) more).filter (fun entry => entry.1 == n) = [] := by
            rw [List.filter_eq_nil_iff]
            intro entry hentry
            have := le_of_mem_placeholdersFrom hentry
            simp only [beq_iff_eq]
            omega
          rw [Nat.add_zero, hmore, List.append_nil, List.filter_map]
          simp [Function.comp_def]
      | succ place =>
          have hline : ((placeholderNames line).map (n, ·)).filter
              (fun entry => entry.1 == n + (place + 1)) = [] := by
            rw [List.filter_map]
            simp [Function.comp_def]
          have hmore := ih (n + 1) place h
          rw [show n + 1 + place = n + (place + 1) by omega] at hmore
          rw [hline, hmore, List.nil_append]

theorem filter_placeholders {place : Nat} (h : r.body[place]? = some t) :
    r.placeholders.filter (fun entry => entry.1 == place) =
      (placeholderNames t).map (place, ·) := by
  have hfilter := filter_placeholdersFrom 0 place h
  rwa [Nat.zero_add] at hfilter

/-! ## The first placeholder without a value -/

/-- The first placeholder of a body that names nothing bound, in the order of lines and then from left
to right. -/
structure FirstUnbound (r : Recipe) (b : Bindings) (place : Nat) (o : Occurrence) : Prop where
  unbound : b.get? o.name = none
  stands : ∃ t, r.body[place]? = some t ∧ o.StandsIn t
  first : ∀ (place' : Nat) (t : Text) (o' : Occurrence), r.body[place']? = some t →
    o'.StandsIn t → place' < place ∨ place' = place ∧ o'.start < o.start →
    (b.get? o'.name).isSome = true

/-- In a list in order, an element that does not stand behind the first one of a kind is not of this
kind. -/
theorem eq_false_of_find? {α : Type} {R : α → α → Prop} {l : List α} {p : α → Bool} {a x : α}
    (hl : l.Pairwise R) (hfind : l.find? p = some a) (hx : x ∈ l) (hne : x ≠ a) (hR : ¬ R a x) :
    p x = false := by
  obtain ⟨_, before, behind, rfl, hbefore⟩ := List.find?_eq_some_iff_append.mp hfind
  rw [List.pairwise_append, List.pairwise_cons] at hl
  rcases List.mem_append.mp hx with hx | hx
  · simpa using hbefore x hx
  · rcases List.mem_cons.mp hx with rfl | hx
    · exact absurd rfl hne
    · exact absurd (hl.2.1.1 x hx) hR

/-- The first entry of the list without a value is a first placeholder without one. -/
theorem exists_firstUnbound {place : Nat} {name : Text}
    (h : r.placeholders.find? (fun entry => (b.get? entry.2).isNone) = some (place, name)) :
    ∃ o, r.FirstUnbound b place o ∧ o.name = name := by
  obtain ⟨hunbound, above, below, hlist, habove⟩ := List.find?_eq_some_iff_append.mp h
  obtain ⟨t, ht, _⟩ := mem_placeholders_iff.mp (List.mem_of_find?_eq_some h)
  have hcut := Cut.isCutOf_ofPieces t
  -- it is the first one of its line too, and so belongs to the first of the places on the line
  have hline : (r.placeholders.filter fun entry => entry.1 == place).find?
      (fun entry => (b.get? entry.2).isNone) = some (place, name) := by
    rw [List.find?_filter, List.find?_eq_some_iff_append]
    refine ⟨by simpa using hunbound, above, below, hlist, fun entry hentry => ?_⟩
    have hbound : (b.get? entry.2).isNone = false := by simpa using habove entry hentry
    simp [hbound]
  rw [filter_placeholders ht, hcut.placeholderNames_eq, ← Cut.map_name_occurrences, List.map_map,
    List.find?_map] at hline
  obtain ⟨o, hfind, heq⟩ := Option.map_eq_some_iff.mp hline
  have hstands := hcut.mem_occurrences_iff.mp (List.mem_of_find?_eq_some hfind)
  refine ⟨o, ⟨by simpa using List.find?_some hfind, ⟨t, ht, hstands⟩, ?_⟩,
    congrArg Prod.snd heq⟩
  rintro place' t' o' ht' ho' (hlt | ⟨rfl, hlt⟩)
  · have hmem : (place', o'.name) ∈ r.placeholders :=
      mem_placeholders_iff.mpr ⟨t', ht', mem_placeholderNames_iff.mpr ⟨o', ho', rfl⟩⟩
    have hbound := eq_false_of_find? (pairwise_placeholdersFrom 0 r.body) h hmem
      (fun heq => by cases heq; omega) (by dsimp only; omega)
    simpa using hbound
  · rw [ht] at ht'
    cases ht'
    have hbound := eq_false_of_find? (Cut.pairwise_occurrences _) hfind
      (hcut.mem_occurrences_iff.mpr ho') (fun heq => by rw [heq] at hlt; omega)
      (fun hle => by unfold Occurrence.stop Occurrence.start at *; omega)
    simpa using hbound

/-- There is only one first placeholder without a value. -/
theorem FirstUnbound.unique {place place' : Nat} {o o' : Occurrence}
    (h : r.FirstUnbound b place o) (h' : r.FirstUnbound b place' o') : place = place' ∧ o = o' := by
  obtain ⟨t, ht, hstands⟩ := h.stands
  obtain ⟨t', ht', hstands'⟩ := h'.stands
  have hnot : ¬ (place < place' ∨ place = place' ∧ o.start < o'.start) := fun hlt => by
    have := h'.first place t o ht hstands hlt
    rw [h.unbound] at this
    cases this
  have hnot' : ¬ (place' < place ∨ place' = place ∧ o'.start < o.start) := fun hlt => by
    have := h.first place' t' o' ht' hstands' hlt
    rw [h'.unbound] at this
    cases this
  have hplace : place = place' := by omega
  subst hplace
  rw [ht] at ht'
  cases ht'
  refine ⟨rfl, ?_⟩
  by_contra hne
  have hpos := hstands.1.length_pos
  have hpos' := hstands'.1.length_pos
  have hapart := Occurrence.stop_le_start_of_ne hstands hstands' hne
  unfold Occurrence.stop Occurrence.start at *
  omega

/-- **The first entry of the list without a value is the first placeholder without one**, in the order
of the body and of each of its lines. -/
theorem find?_placeholders_eq_some_iff {place : Nat} {name : Text} :
    r.placeholders.find? (fun entry => (b.get? entry.2).isNone) = some (place, name) ↔
      ∃ o, r.FirstUnbound b place o ∧ o.name = name := by
  constructor
  · exact exists_firstUnbound
  · rintro ⟨o, ho, rfl⟩
    obtain ⟨t, ht, hstands⟩ := ho.stands
    have hmem : (place, o.name) ∈ r.placeholders :=
      mem_placeholders_iff.mpr ⟨t, ht, mem_placeholderNames_iff.mpr ⟨o, hstands, rfl⟩⟩
    cases hfind : r.placeholders.find? (fun entry => (b.get? entry.2).isNone) with
    | none =>
        have := List.find?_eq_none.mp hfind _ hmem
        simp [ho.unbound] at this
    | some entry =>
        obtain ⟨place', name'⟩ := entry
        obtain ⟨o', ho', rfl⟩ := exists_firstUnbound hfind
        obtain ⟨rfl, rfl⟩ := ho.unique ho'
        rfl

/-! ## The body -/

/-- Lines are rendered up to the first placeholder that nothing is bound to. -/
theorem render_cases (n : Nat) (ls : List Text) :
    (∃ entry, (placeholdersFrom n ls).find? (fun entry => (b.get? entry.2).isNone) = some entry ∧
      ls.mapM (r.renderLine b) = .error (.unresolved r.name entry.2)) ∨
    ((placeholdersFrom n ls).find? (fun entry => (b.get? entry.2).isNone) = none ∧
      ∃ shown, ls.mapM (r.renderLine b) = .ok shown ∧ shown.length = ls.length) := by
  induction ls generalizing n with
  | nil => exact Or.inr ⟨rfl, [], rfl, rfl⟩
  | cons line more ih =>
      rw [placeholdersFrom_cons, List.find?_append, List.find?_map, List.mapM_cons]
      rcases renderLine_cases (r := r) (b := b) line with ⟨name, hfind, herror⟩ | ⟨hfind, u, hok⟩
      · have hfirst : (placeholderNames line).find? ((fun entry => (b.get? entry.2).isNone) ∘
            fun name => (n, name)) = some name := hfind
        rw [hfirst, herror]
        exact Or.inl ⟨(n, name), rfl, rfl⟩
      · have hnone : (placeholderNames line).find? ((fun entry => (b.get? entry.2).isNone) ∘
            fun name => (n, name)) = none := hfind
        rw [hnone, hok, ok_bind, Option.map_none, Option.none_or]
        rcases ih (n + 1) with ⟨entry, hfirst, herror⟩ | ⟨hrest, shown, hshown, hlength⟩
        · exact Or.inl ⟨entry, hfirst, by rw [herror]; rfl⟩
        · refine Or.inr ⟨hrest, u :: shown, by rw [hshown]; rfl, ?_⟩
          rw [List.length_cons, List.length_cons, hlength]

/-- The body is not rendered exactly if an entry of the list has no value, and the fault is that of
the first one. -/
theorem render_eq_error_iff {fault : RunFault} : r.render b = .error fault ↔ ∃ place name,
    r.placeholders.find? (fun entry => (b.get? entry.2).isNone) = some (place, name) ∧
    fault = .unresolved r.name name := by
  unfold render
  rw [placeholders_eq]
  rcases render_cases (r := r) (b := b) 0 r.body with
    ⟨⟨place, name⟩, hfind, herror⟩ | ⟨hfind, shown, hshown, _⟩
  · rw [hfind, herror]
    constructor
    · rintro ⟨⟩
      exact ⟨place, name, rfl, rfl⟩
    · rintro ⟨_, _, ⟨⟩, rfl⟩
      rfl
  · rw [hfind, hshown]
    simp

/-- The body is rendered line for line exactly if no entry of the list is without a value. -/
theorem exists_render_iff : (∃ shown, r.render b = .ok shown ∧ shown.length = r.body.length) ↔
    r.placeholders.find? (fun entry => (b.get? entry.2).isNone) = none := by
  unfold render
  rw [placeholders_eq]
  rcases render_cases (r := r) (b := b) 0 r.body with
    ⟨entry, hfind, herror⟩ | ⟨hfind, shown, hshown, hlength⟩
  · rw [hfind, herror]
    simp
  · rw [hfind, hshown]
    simpa using hlength

/-- Where every placeholder of the body is bound, the body is rendered line by line. -/
theorem exists_render
    (h : ∀ template ∈ r.body, ∀ name ∈ placeholderNames template, (b.get? name).isSome = true) :
    ∃ shown, r.render b = .ok shown ∧ shown.length = r.body.length := by
  rw [exists_render_iff, List.find?_eq_none]
  rintro ⟨place, name⟩ hmem
  obtain ⟨template, ht, hname⟩ := mem_placeholders_iff.mp hmem
  have hbound := h template (List.mem_of_getElem? ht) name hname
  simpa [Option.isSome_iff_ne_none] using hbound

/-- **Rendering a line puts all values in at once.** Let every placeholder of a template be bound. No
two of them overlap; the template has one cut, the places of which are all the places of placeholders,
and where the template is a line of the body, the names of the cut are those that the recipe lists for
the line. The rendered line is the cut with the texts of the values in the place of the placeholders,
whatever braces these texts hold. -/
theorem renderLine_fills_cut (r : Recipe) {b : Bindings} {t : Text}
    (hbound : ∀ o : Occurrence, o.StandsIn t → (b.get? o.name).isSome = true) :
    (∀ o o' : Occurrence, o.StandsIn t → o'.StandsIn t → o ≠ o' →
      o.stop ≤ o'.start ∨ o'.stop ≤ o.start) ∧
    ∃ c : Cut, c.IsCutOf t ∧ (∀ c' : Cut, c'.IsCutOf t → c' = c) ∧
      (∀ o : Occurrence, o ∈ c.occurrences ↔ o.StandsIn t) ∧
      (∀ place, r.body[place]? = some t →
        (r.placeholders.filter fun entry => entry.1 == place).map (·.2) = c.names) ∧
      ∃ value : Text → Bound, (∀ name ∈ c.names, b.get? name = some (value name)) ∧
        r.renderLine b t = .ok (c.filled fun hole => (value hole.name).text) := by
  have hcut := Cut.isCutOf_ofPieces t
  refine ⟨fun o o' => Occurrence.stop_le_start_of_ne, _, hcut, fun c' => Cut.isCutOf_iff.mp,
    fun o => hcut.mem_occurrences_iff, fun place hplace => ?_, ?_⟩
  · rw [filter_placeholders hplace, hcut.placeholderNames_eq, List.map_map]
    exact List.map_id _
  · let value : Text → Bound := fun name => (b.get? name).getD (.many [])
    have hvalue : ∀ name ∈ (Cut.ofPieces (pieces t)).names, b.get? name = some (value name) := by
      intro name hname
      rw [← hcut.placeholderNames_eq] at hname
      obtain ⟨o, ho, rfl⟩ := mem_placeholderNames_iff.mp hname
      obtain ⟨v, hv⟩ := Option.isSome_iff_exists.mp (hbound o ho)
      show _ = some ((b.get? o.name).getD _)
      rw [hv, Option.getD_some]
    exact ⟨value, hvalue, renderLine_of_isCutOf hcut hvalue⟩

/-- The theorem at a template with braces around its placeholders, and at values that hold a
placeholder or make one up with their neighbours. -/
theorem renderLine_fills_cut_braces :
    let t := "\x7b\x7b\x7ba\x7d\x7db\x7d\x7d \x7b\x7b \x7b\x7b\u3000v\t\x7d\x7d \x7d\x7d".toList
    let r : Recipe := { name := ['r'], body := [t] }
    let b : Bindings := [(['a'], .one ['{']), (['v'], .many ["{{a}}".toList, ['x']])]
    ((∀ o : Occurrence, o.StandsIn t → (b.get? o.name).isSome = true) ∧
      r.renderLine b t = .ok "{{b}} {{ {{a}} x }}".toList) ∧
    (∀ o o' : Occurrence, o.StandsIn t → o'.StandsIn t → o ≠ o' →
      o.stop ≤ o'.start ∨ o'.stop ≤ o.start) ∧
    ∃ c : Cut, c.IsCutOf t ∧ (∀ c' : Cut, c'.IsCutOf t → c' = c) ∧
      (∀ o : Occurrence, o ∈ c.occurrences ↔ o.StandsIn t) ∧
      (∀ place, r.body[place]? = some t →
        (r.placeholders.filter fun entry => entry.1 == place).map (·.2) = c.names) ∧
      ∃ value : Text → Bound, (∀ name ∈ c.names, b.get? name = some (value name)) ∧
        r.renderLine b t = .ok (c.filled fun hole => (value hole.name).text) := by
  intro t r b
  have hnames : ∀ name ∈ placeholderNames t, (b.get? name).isSome = true := by decide +kernel
  have hbound : ∀ o : Occurrence, o.StandsIn t → (b.get? o.name).isSome = true := fun o ho =>
    hnames o.name (mem_placeholderNames_iff.mpr ⟨o, ho, rfl⟩)
  have hline : r.renderLine b t = .ok "{{b}} {{ {{a}} x }}".toList := by decide +kernel
  exact ⟨⟨hbound, hline⟩, renderLine_fills_cut r hbound⟩

/-- **Rendering fails at the first placeholder without a value, and only there.** A recipe is not
rendered exactly if a placeholder that it lists is not bound. The fault is then that of the first such
entry of the list, which is the first such placeholder in the order of the lines and then from left to
right. Otherwise every line is rendered. -/
theorem render_fails_at_first_unbound (r : Recipe) (b : Bindings) :
    ((∃ name, r.render b = .error (.unresolved r.name name)) ↔
      ∃ entry ∈ r.placeholders, b.get? entry.2 = none) ∧
    (∀ fault, r.render b = .error fault ↔ ∃ place name,
      r.placeholders.find? (fun entry => (b.get? entry.2).isNone) = some (place, name) ∧
      fault = .unresolved r.name name) ∧
    (∀ fault, r.render b = .error fault ↔ ∃ place o, r.FirstUnbound b place o ∧
      fault = .unresolved r.name o.name) ∧
    ((∃ shown, r.render b = .ok shown ∧ shown.length = r.body.length) ↔
      ∀ entry ∈ r.placeholders, (b.get? entry.2).isSome = true) := by
  refine ⟨?_, fun fault => render_eq_error_iff, fun fault => ?_, ?_⟩
  · have hsome : (∃ entry ∈ r.placeholders, b.get? entry.2 = none) ↔
        (r.placeholders.find? fun entry => (b.get? entry.2).isNone).isSome = true := by
      simp [List.find?_isSome]
    rw [hsome, Option.isSome_iff_exists]
    constructor
    · rintro ⟨name, herror⟩
      obtain ⟨place, name', hfind, _⟩ := render_eq_error_iff.mp herror
      exact ⟨(place, name'), hfind⟩
    · rintro ⟨⟨place, name⟩, hfind⟩
      exact ⟨name, render_eq_error_iff.mpr ⟨place, name, hfind, rfl⟩⟩
  · rw [render_eq_error_iff]
    refine exists_congr fun place => ?_
    constructor
    · rintro ⟨name, hfind, rfl⟩
      obtain ⟨o, ho, rfl⟩ := exists_firstUnbound hfind
      exact ⟨o, ho, rfl⟩
    · rintro ⟨o, ho, rfl⟩
      exact ⟨o.name, find?_placeholders_eq_some_iff.mpr ⟨o, ho, rfl⟩, rfl⟩
  · rw [exists_render_iff, List.find?_eq_none]
    simp [Option.isSome_iff_ne_none]

end Recipe

end Runbook
