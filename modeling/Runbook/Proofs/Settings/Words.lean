import Runbook.Proofs.Chain
import Runbook.Text.Words

set_option autoImplicit false

/-! # When a command has words

Whether a command text can be cut into words is decided by the place at which its reader stands at the
end: between quotes or behind a backslash it fails, and nowhere else. The reader's place depends on the
characters alone, not on the words that it has put together. A text that can be cut has a word unless
it is made of separators.
-/

namespace Runbook.Words

variable {place : Place} {word t : Wide} {ws : List Wide} {fault : Fault}

/-! ## Places -/

/-- Where the reader stands behind a character outside quotes. -/
def Place.outside (p : CodePoint) : Place :=
  if isSeparator p then .gap
  else if p == '\\' then .bareEscape
  else if p == '\'' then .quote '\''
  else if p == '"' then .quote '"'
  else .bare

/-- Where the reader stands behind one more character. -/
def Place.next : Place → CodePoint → Place
  | .gap, p => outside p
  | .bare, p => outside p
  | .quote mark, p =>
      if p == mark then .bare
      else if p == '\\' && mark == '"' then .quoteEscape
      else .quote mark
  | .bareEscape, _ => .bare
  | .quoteEscape, _ => .quote '"'

/-- What is wrong with a text that ends at a place. -/
def Place.fault? : Place → Option Fault
  | .gap => none
  | .bare => none
  | .quote _ => some .openQuote
  | .bareEscape => some .openEscape
  | .quoteEscape => some .openEscape

/-- What is wrong with a command text: it ends between quotes or behind a backslash. -/
def fault? (t : Wide) : Option Fault := (t.foldl Place.next .gap).fault?

/-! ## Cutting -/

theorem outside_eq_gap_iff {p : CodePoint} : Place.outside p = .gap ↔ isSeparator p = true := by
  unfold Place.outside
  split_ifs <;> simp_all

theorem nil_append_map (x : Except Fault (List Wide)) : (([] : List Wide) ++ ·) <$> x = x := by
  cases x <;> rfl

/-- One character is read by going on from the next place, perhaps with a word that is done; one is
done where a word was being read and a gap begins. -/
theorem exists_splitFrom_cons (place : Place) (word : Wide) (p : CodePoint) :
    ∃ done word', (place ≠ .gap → place.next p = .gap → done ≠ []) ∧
      ∀ rest, splitFrom place word (p :: rest) =
        (done ++ ·) <$> splitFrom (place.next p) word' rest := by
  cases place with
  | gap =>
      let word' := if isSeparator p then word else if Place.outside p = .bare then [p] else []
      refine ⟨[], word', fun h => absurd rfl h, fun rest => ?_⟩
      rw [nil_append_map, splitFrom, Place.next]
      unfold word' Place.outside
      split_ifs <;> simp_all
  | bare =>
      by_cases hgap : isSeparator p = true
      · refine ⟨[word], [], by simp, fun rest => ?_⟩
        rw [splitFrom, if_pos hgap, Place.next, outside_eq_gap_iff.mpr hgap]
        rfl
      · let word' := if Place.outside p = .bare then word ++ [p] else word
        refine ⟨[], word', fun _ hnext => absurd (outside_eq_gap_iff.mp hnext) hgap, fun rest => ?_⟩
        rw [nil_append_map, splitFrom, if_neg hgap, Place.next]
        unfold word' Place.outside
        split_ifs <;> simp_all
  | quote mark =>
      let word' := if p == mark || p == '\\' && mark == '"' then word else word ++ [p]
      refine ⟨[], word', fun _ hnext => ?_, fun rest => ?_⟩
      · rw [Place.next] at hnext
        split_ifs at hnext
      · rw [nil_append_map, splitFrom, Place.next]
        unfold word'
        split_ifs <;> simp_all
  | bareEscape =>
      refine ⟨[], word ++ [p], by simp [Place.next], fun rest => ?_⟩
      rw [nil_append_map, splitFrom, Place.next]
  | quoteEscape =>
      let word' := if p == '"' || p == '\\' then word ++ [p] else word ++ [.char '\\', p]
      refine ⟨[], word', by simp [Place.next], fun rest => ?_⟩
      rw [nil_append_map, splitFrom, Place.next]
      unfold word'
      split_ifs <;> rfl

/-- **Cutting fails exactly where the reader ends between quotes or behind a backslash.** -/
theorem splitFrom_eq_error_iff (place : Place) (word t : Wide) :
    splitFrom place word t = .error fault ↔ (t.foldl Place.next place).fault? = some fault := by
  induction t generalizing place word with
  | nil => cases place <;> simp [splitFrom, Place.fault?]
  | cons p t ih =>
      obtain ⟨done, word', _, hstep⟩ := exists_splitFrom_cons place word p
      -- the words that are done do not change the fault of what stands behind them
      rw [hstep, map_eq_error_iff, ih, List.foldl_cons]

/-- Where a word is being read there is one. -/
theorem splitFrom_ne_nil {place : Place} (hplace : place ≠ .gap)
    (h : splitFrom place word t = .ok ws) : ws ≠ [] := by
  induction t generalizing place word ws with
  | nil =>
      cases place with
      | gap => exact absurd rfl hplace
      | bare =>
          cases h
          simp
      | quote mark => cases h
      | bareEscape => cases h
      | quoteEscape => cases h
  | cons p t ih =>
      obtain ⟨done, word', hdone, hstep⟩ := exists_splitFrom_cons place word p
      obtain ⟨more, hmore, rfl⟩ := map_eq_ok_iff.mp (hstep t ▸ h)
      -- the word is done here, or goes on behind the character
      by_cases hnext : place.next p = .gap
      · simp [hdone hplace hnext]
      · simp [ih hnext hmore]

theorem split_eq_error_iff {t : Wide} : split t = .error fault ↔ fault? t = some fault :=
  splitFrom_eq_error_iff .gap [] t

/-- A text that can be cut ends in a gap or in a bare word. -/
theorem fault?_of_split {t : Wide} (h : split t = .ok ws) : fault? t = none := by
  cases hfault : fault? t with
  | none => rfl
  | some fault =>
      rw [split_eq_error_iff.mpr hfault] at h
      cases h

/-- A text without words is made of separators. -/
theorem split_eq_nil_iff {t : Wide} : split t = .ok [] ↔ ∀ p ∈ t, isSeparator p = true := by
  unfold split
  induction t with
  | nil => simp [splitFrom]
  | cons p t ih =>
      by_cases hgap : isSeparator p = true
      · rw [splitFrom, if_pos hgap, ih]
        simp [hgap]
      · have hsome : splitFrom .gap [] (p :: t) ≠ .ok [] := by
          intro h
          obtain ⟨done, word', _, hstep⟩ := exists_splitFrom_cons .gap [] p
          have hnext : Place.next .gap p ≠ .gap := fun hno => hgap (outside_eq_gap_iff.mp hno)
          obtain ⟨more, hmore, hnil⟩ := map_eq_ok_iff.mp (hstep t ▸ h)
          exact splitFrom_ne_nil hnext hmore (List.append_eq_nil_iff.mp hnil).2
        simp [hsome, hgap]

end Runbook.Words
