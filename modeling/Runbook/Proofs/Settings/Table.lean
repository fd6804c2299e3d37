import Runbook.Document.Tree
import Runbook.Proofs.Settings.Checks
import Runbook.Proofs.Text.Utf8
import Runbook.Settings.File

set_option autoImplicit false

/-! # The table of a settings file

The value of a settings document is a table, or nothing; anything else is refused. The names in the
table that are no settings are ignored, and one warning names them in dictionary order. This needs
names that are texts: a key of another kind, which would be ignored just as well, breaks the run off.

What is said here is said for any reader of documents. That a warning names nothing twice needs one
whose tables have keys that are different from each other, and the reader of the program is such a one.
-/

namespace Runbook

variable {entries : List (Value × Value)} {file : Path} {t : Wide}

/-! ## Keys -/

/-- Whether all keys of a table are texts. -/
def HasTextKeys (entries : List (Value × Value)) : Prop := ∀ e ∈ entries, ∃ t, e.1 = .text t

/-- Whether the keys of a table are different from each other. -/
def HasDistinctKeys (entries : List (Value × Value)) : Prop :=
  entries.Pairwise fun e e' => Value.sameKey e.1 e'.1 = false

/-- Whether the tables that a reader gives have keys that are different from each other. -/
def GivesDistinctKeys (reader : DocumentReader) : Prop :=
  ∀ t entries, reader t = .ok (.table entries) → HasDistinctKeys entries

/-- The keys of a table in which a value is set are its own, and the one that is set. -/
theorem key_of_mem_put {k v : Value} {e : Value × Value} (h : e ∈ Value.put entries k v) :
    e.1 = k ∨ ∃ e' ∈ entries, e.1 = e'.1 := by
  induction entries with
  | nil =>
      rw [Value.put, List.mem_singleton] at h
      exact Or.inl (by rw [h])
  | cons first entries ih =>
      rw [Value.put] at h
      split at h
      · rcases List.mem_cons.mp h with rfl | h
        · exact Or.inr ⟨first, List.mem_cons_self, rfl⟩
        · exact Or.inr ⟨e, List.mem_cons_of_mem _ h, rfl⟩
      · rcases List.mem_cons.mp h with rfl | h
        · exact Or.inr ⟨_, List.mem_cons_self, rfl⟩
        · rcases ih h with hk | ⟨e', he', heq⟩
          · exact Or.inl hk
          · exact Or.inr ⟨e', List.mem_cons_of_mem _ he', heq⟩

theorem HasDistinctKeys.put (h : HasDistinctKeys entries) (k v : Value) :
    HasDistinctKeys (Value.put entries k v) := by
  induction entries with
  | nil => exact List.pairwise_singleton _ _
  | cons first entries ih =>
      obtain ⟨hfirst, hrest⟩ := List.pairwise_cons.mp h
      rw [Value.put]
      split
      -- in place: the keys stay what they are
      · exact List.pairwise_cons.mpr ⟨hfirst, hrest⟩
      · next hne =>
          refine List.pairwise_cons.mpr ⟨fun e he => ?_, ih hrest⟩
          rcases key_of_mem_put he with heq | ⟨e', he', heq⟩
          · rw [heq]
            simpa using hne
          · rw [heq]
            exact hfirst e' he'

namespace Document

theorem Node.hasDistinctKeys_entryValues (es : List (Node × Node)) {done : List (Value × Value)}
    (h : HasDistinctKeys done) : HasDistinctKeys (entryValues es done) := by
  induction es generalizing done with
  | nil =>
      rw [entryValues]
      exact h
  | cons e es ih =>
      obtain ⟨k, v⟩ := e
      rw [entryValues]
      exact ih (h.put _ _)

theorem plainValue_ne_table (t : Text) : plainValue t ≠ .table entries := by
  unfold plainValue
  split_ifs
  · exact Value.noConfusion
  · split <;> exact Value.noConfusion

theorem Node.hasDistinctKeys_of_value {n : Node} (h : n.value = .table entries) :
    HasDistinctKeys entries := by
  unfold value at h
  split at h
  -- a plain scalar may stand for many values, but for no table
  · next t =>
      cases htext : t.text? with
      | none =>
          rw [htext] at h
          cases h
      | some u =>
          rw [htext] at h
          exact absurd h (plainValue_ne_table u)
  · cases h
  · cases h
  · next es =>
      cases h
      exact hasDistinctKeys_entryValues es List.Pairwise.nil
  · cases h

/-- The keys of a table that is read from a document are different from each other. -/
theorem givesDistinctKeys_read : GivesDistinctKeys read := by
  intro t entries h
  obtain ⟨⟨root, _⟩, _, hread⟩ := bind_eq_ok_iff.mp h
  cases root with
  | none => cases hread
  | some n =>
      have hvalue : n.read (4 * (tokens t).1.length + 8) = .ok (.table entries) := hread
      unfold Node.read at hvalue
      split at hvalue
      · cases hvalue
      · exact Node.hasDistinctKeys_of_value (Except.ok.inj hvalue)

end Document

/-! ## Names -/

/-- Whether a text is the name of a setting. -/
def IsSettingName (t : Wide) : Prop := ∃ name ∈ settingNames, t = .ofText name

instance (t : Wide) : Decidable (IsSettingName t) :=
  inferInstanceAs (Decidable (∃ name ∈ settingNames, t = .ofText name))

/-- The name that a key is, if it is a text but no setting. -/
def unknownName? : Value → Option Wide
  | .text t => if IsSettingName t then none else some t
  | _ => none

/-- The names in a table that are no settings, in the order of the table. -/
def unknownNames (entries : List (Value × Value)) : List Wide :=
  entries.filterMap fun e => unknownName? e.1

theorem unknownName?_eq_some_iff {k : Value} :
    unknownName? k = some t ↔ k = .text t ∧ ¬ IsSettingName t := by
  cases k with
  | text u =>
      unfold unknownName?
      dsimp only
      rw [Value.text.injEq]
      split_ifs with h
      · refine iff_of_false (fun hnone => nomatch hnone) ?_
        rintro ⟨rfl, hno⟩
        exact hno h
      · rw [Option.some.injEq]
        constructor
        · rintro rfl
          exact ⟨rfl, h⟩
        · exact And.left
  | _ => simp [unknownName?]

/-- What the reader looks for when it looks for a setting. -/
theorem any_settingNames_iff : t.text?.any settingNames.contains = true ↔ IsSettingName t := by
  rw [Option.any_eq_true]
  simp only [Wide.text?_eq_some_iff, List.contains_iff_mem, IsSettingName, and_comm]

theorem unknownKeys_eq (h : HasTextKeys entries) :
    unknownKeys entries = (unknownNames entries).map .text := by
  induction entries with
  | nil => rfl
  | cons e entries ih =>
      obtain ⟨k, v⟩ := e
      obtain ⟨t, rfl⟩ := h _ List.mem_cons_self
      have hrest := ih fun e he => h e (List.mem_cons_of_mem _ he)
      unfold unknownKeys at hrest ⊢
      unfold unknownNames
      rw [List.map_cons, List.filter_cons, List.filterMap_cons, hrest]
      by_cases ht : IsSettingName t
      · simp [any_settingNames_iff.mpr ht, unknownName?, ht, unknownNames]
      · have hany := mt any_settingNames_iff.mp ht
        simp [hany, unknownName?, ht, unknownNames]

/-- The unknown keys of a table are names if all keys are texts, and only then. -/
theorem texts?_unknownKeys_iff {names : List Wide} :
    texts? (unknownKeys entries) = some names ↔
      HasTextKeys entries ∧ unknownNames entries = names := by
  rw [texts?_eq_some_iff]
  constructor
  · intro h
    have hkeys : HasTextKeys entries := by
      intro e he
      by_contra hno
      -- a key that is not a text is unknown, and would have to be one of the names
      have hmem : e.1 ∈ unknownKeys entries := by
        unfold unknownKeys
        refine List.mem_filter.mpr ⟨List.mem_map_of_mem he, ?_⟩
        split
        · next t ht => exact absurd ⟨t, ht⟩ hno
        · rfl
      rw [h] at hmem
      obtain ⟨t, _, ht⟩ := List.mem_map.mp hmem
      exact hno ⟨t, ht.symm⟩
    rw [unknownKeys_eq hkeys] at h
    exact ⟨hkeys, List.map_injective_iff.mpr (fun _ _ => Value.text.inj) h⟩
  · rintro ⟨hkeys, rfl⟩
    exact unknownKeys_eq hkeys

theorem nodup_unknownNames (h : HasDistinctKeys entries) : (unknownNames entries).Nodup := by
  refine List.Pairwise.filterMap _ (fun e e' hne t ht u hu => ?_) h
  rw [(unknownName?_eq_some_iff.mp ht).1, (unknownName?_eq_some_iff.mp hu).1] at hne
  simpa [Value.sameKey] using hne

/-! ## The warning -/

/-- Dictionary order, as the order of the lists of codes. -/
theorem sortTexts_ordered (ts : List Wide) :
    (sortTexts ts).Pairwise fun a b => a.map CodePoint.code ≤ b.map CodePoint.code := by
  -- what the sorting asks of two texts is the order of their codes
  have hle : ∀ a b : Wide, (!Wide.before b a) = true ↔
      a.map CodePoint.code ≤ b.map CodePoint.code := by
    intro a b
    rw [Bool.not_eq_true', ← not_lt, ← Wide.before_iff_lt, Bool.not_eq_true]
  unfold sortTexts
  refine (List.pairwise_mergeSort ?_ ?_ ts).imp fun h => (hle _ _).mp h
  · intro a b c hab hbc
    exact (hle a c).mpr (le_trans ((hle a b).mp hab) ((hle b c).mp hbc))
  · intro a b
    rw [Bool.or_eq_true, hle, hle]
    exact le_total _ _

/-- A list between the separators is a part of the whole. -/
theorem infix_intercalate {α : Type} {sep ts : List α} {tss : List (List α)} (h : ts ∈ tss) :
    ts <:+: List.intercalate sep tss := by
  induction tss with
  | nil => cases h
  | cons first tss ih =>
      rcases eq_or_ne tss [] with rfl | hne
      · rw [List.mem_singleton.mp h, List.intercalate_singleton]
      · rw [List.intercalate_cons_of_ne_nil hne, List.append_assoc]
        rcases List.mem_cons.mp h with rfl | h
        · exact (List.prefix_append _ _).isInfix
        · rw [← List.append_assoc]
          exact (ih h).trans (List.suffix_append _ _).isInfix

/-- What is warned about when the table of a file is read: nothing, or at once all names in it that
are no settings, in dictionary order, and the message shows each of them. -/
inductive Warns (file : Path) (entries : List (Value × Value)) : Option UnknownNames → Prop
  | nothing (hnone : unknownNames entries = []) : Warns file entries none
  | once {names : List Wide} (hsome : unknownNames entries ≠ [])
      (hperm : names.Perm (unknownNames entries))
      (hordered : names.Pairwise fun a b => a.map CodePoint.code ≤ b.map CodePoint.code)
      (hnodup : HasDistinctKeys entries → names.Nodup)
      (hshown : ∀ t ∈ names, t <:+: (UnknownNames.mk file names).message) :
      Warns file entries (some ⟨file, names⟩)

theorem warns_sortTexts (h : unknownNames entries ≠ []) :
    Warns file entries (some ⟨file, sortTexts (unknownNames entries)⟩) := by
  have hperm : (sortTexts (unknownNames entries)).Perm (unknownNames entries) :=
    List.mergeSort_perm _ _
  refine .once h hperm (sortTexts_ordered _) (fun hkeys => ?_) fun t ht => ?_
  · exact hperm.nodup_iff.mpr (nodup_unknownNames hkeys)
  · unfold UnknownNames.message
    exact (infix_intercalate ht).trans (List.suffix_append _ _).isInfix

/-! ## The table -/

theorem tableOf_of_hasTextKeys (h : HasTextKeys entries) :
    ∃ warning, tableOf file (.table entries) = .ok (entries, warning) ∧
      Warns file entries warning := by
  have htexts := texts?_unknownKeys_iff.mpr ⟨h, rfl⟩
  unfold tableOf
  dsimp only
  rw [htexts]
  cases hnames : unknownNames entries with
  | nil => exact ⟨none, rfl, .nothing hnames⟩
  | cons name names =>
      refine ⟨_, rfl, ?_⟩
      rw [← hnames]
      exact warns_sortTexts (by simp [hnames])

theorem tableOf_of_not_hasTextKeys (h : ¬ HasTextKeys entries) :
    tableOf file (.table entries) = .error .namelessSetting := by
  have hnone : texts? (unknownKeys entries) = none := by
    rw [Option.eq_none_iff_forall_ne_some]
    intro names hnames
    exact h (texts?_unknownKeys_iff.mp hnames).1
  unfold tableOf
  dsimp only
  rw [hnone]

variable {reader : DocumentReader}

/-- The value of the document that the bytes of a file are. -/
def HoldsValue (reader : DocumentReader) (bytes : List UInt8) (v : Value) : Prop :=
  ∃ t, Utf8.decode bytes = .ok t ∧ reader (Text.foldLineEnds t) = .ok v

theorem readSettingsFile_of_holdsValue {bytes : List UInt8} {v : Value}
    (h : HoldsValue reader bytes v) : readSettingsFile reader file bytes = tableOf file v := by
  obtain ⟨t, hdecode, hread⟩ := h
  unfold readSettingsFile
  rw [hdecode]
  dsimp only
  rw [hread]

/-- **A settings file is a table, or empty, or refused with a reported fault, unless it breaks off.**
It breaks off exactly if it is a table with a key that is not a text. A table that is read comes with
one warning about its unknown names, if there are any. This is so for every value, and so for those
that the documents hold, whatever the reader makes of them. -/
theorem tableOf_cases (reader : DocumentReader) (hreader : GivesDistinctKeys reader) (file : Path)
    (v : Value) :
    (∀ bytes, HoldsValue reader bytes v → readSettingsFile reader file bytes = tableOf file v ∧
      ∀ entries, v = .table entries → HasDistinctKeys entries) ∧
    ((v = .null ∧ tableOf file v = .ok ([], none)) ∨
    (∃ entries, v = .table entries ∧ HasTextKeys entries ∧
      ∃ warning, tableOf file v = .ok (entries, warning) ∧ Warns file entries warning) ∨
    (∃ entries, v = .table entries ∧ ¬ HasTextKeys entries ∧
      ∃ fault, tableOf file v = .error fault ∧ fault.exitCode? = none) ∨
    (v ≠ .null ∧ (∀ entries, v ≠ .table entries) ∧
      ∃ fault, tableOf file v = .error fault ∧ fault.exitCode? = some 2)) := by
  refine ⟨fun bytes hholds => ⟨readSettingsFile_of_holdsValue hholds, ?_⟩, ?_⟩
  · rintro entries rfl
    obtain ⟨t, _, hread⟩ := hholds
    exact hreader _ entries hread
  · cases v with
    | null => exact Or.inl ⟨rfl, rfl⟩
    | table entries =>
        by_cases h : HasTextKeys entries
        · exact Or.inr (Or.inl ⟨entries, rfl, h, tableOf_of_hasTextKeys h⟩)
        · exact Or.inr (Or.inr (Or.inl ⟨entries, rfl, h, _, tableOf_of_not_hasTextKeys h, rfl⟩))
    | _ => exact Or.inr (Or.inr (Or.inr ⟨Value.noConfusion, fun _ => Value.noConfusion, _, rfl, rfl⟩))

/-- The misspelt name of a setting is warned about. -/
theorem tableOf_cases_misspelt :
    let file := Path.ofText settingsFileName
    let bytes := Utf8.encode "shel: a\n".toList
    let entries := [(Value.ofText "shel".toList, Value.ofText ['a'])]
    (GivesDistinctKeys Document.read ∧ HoldsValue Document.read bytes (.table entries)) ∧
    readSettingsFile Document.read file bytes = .ok (entries, some ⟨file, [.ofText "shel".toList]⟩) := by
  intro file bytes entries
  have hreader : GivesDistinctKeys Document.read := Document.givesDistinctKeys_read
  have hholds : HoldsValue Document.read bytes (.table entries) := by
    have htokens : Document.tokens "shel: a\n".toList =
        ([.openEntries, .key, .scalar true (.ofText "shel".toList), .value,
          .scalar true (.ofText ['a']), .close], none) := by decide +kernel
    refine ⟨_, Utf8.decode_encode _, ?_⟩
    show Document.read "shel: a\n".toList = _
    unfold Document.read
    rw [htokens]
    rfl
  refine ⟨⟨hreader, hholds⟩, ?_⟩
  rw [((tableOf_cases Document.read hreader file (.table entries)).1 bytes hholds).1]
  have htexts : texts? (unknownKeys entries) = some [.ofText "shel".toList] := rfl
  have hsort : sortTexts [.ofText "shel".toList] = [.ofText "shel".toList] :=
    List.mergeSort_singleton _
  unfold tableOf
  dsimp only
  rw [htexts]
  dsimp only
  rw [hsort]

/-- A key that is a number breaks off. -/
theorem readSettingsFile_number_key :
    let file := Path.ofText settingsFileName
    let bytes := Utf8.encode "1: a\n".toList
    HoldsValue Document.read bytes (.table [(.int 1, .ofText ['a'])]) ∧
    (∀ result, readSettingsFile Document.read file bytes ≠ .ok result) ∧
    (∀ fault, readSettingsFile Document.read file bytes = .error fault →
      fault.exitCode? ≠ some 2) := by
  intro file bytes
  have hread : Document.read (Text.foldLineEnds "1: a\n".toList) =
      .ok (.table [(.int 1, .ofText ['a'])]) := by
    have htokens : Document.tokens "1: a\n".toList =
        ([.openEntries, .key, .scalar true (.ofText ['1']), .value,
          .scalar true (.ofText ['a']), .close], none) := by decide +kernel
    show Document.read "1: a\n".toList = _
    unfold Document.read
    rw [htokens]
    rfl
  have hbreaks : readSettingsFile Document.read file bytes = .error .namelessSetting := by
    unfold readSettingsFile
    rw [Utf8.decode_encode]
    dsimp only
    rw [hread]
    rfl
  refine ⟨⟨_, Utf8.decode_encode _, hread⟩, fun result hresult => ?_, fun fault hfault => ?_⟩
  · rw [hbreaks] at hresult
    cases hresult
  · rw [hbreaks] at hfault
    cases hfault
    decide

end Runbook
