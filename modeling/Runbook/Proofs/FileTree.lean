import Runbook.FileTree
import Mathlib.Data.List.Induction

set_option autoImplicit false

/-! # Directories above a path, and the files in them

The directories above a path are reached one after the other, each by leaving out the last name. A
resolved path has no double dots, so it is followed straight down: it leads to a file if and only if
all names before the last are those of directories and the tree has a file at the place itself.
-/

namespace Runbook

/-! ## Paths -/

namespace Path

/-- The directory `n` levels above a path; the root, once no names are left. -/
def above (p : Path) : Nat → Path
  | 0 => p
  | n + 1 => (p.above n).parent

theorem above_eq (p : Path) (n : Nat) :
    p.above n = { p with parts := p.parts.take (p.parts.length - n) } := by
  induction n with
  | zero => simp [above]
  | succ n ih =>
      have hdrop : (p.parts.take (p.parts.length - n)).dropLast =
          p.parts.take (p.parts.length - (n + 1)) := by
        rw [List.dropLast_eq_take, List.take_take, List.length_take]
        congr 1
        omega
      rw [above, ih, parent, hdrop]

theorem ancestors_eq (p : Path) :
    p.ancestors = (List.range (p.parts.length + 1)).map p.above := by
  have habove : p.above = fun n => { p with parts := p.parts.take (p.parts.length - n) } :=
    funext p.above_eq
  rw [habove]
  rfl

/-- Whether a text is the name of one entry of a directory. -/
structure IsEntryName (name : Text) : Prop where
  ne_nil : name ≠ []
  ne_dot : name ≠ ['.']
  ne_dots : name ≠ ['.', '.']
  no_slash : '/' ∉ name

theorem segments_of_no_slash {t : Text} (h : '/' ∉ t) : segments t = [t] := by
  induction t with
  | nil => rfl
  | cons c rest ih =>
      have hc : (c == '/') = false := by
        simpa using fun hc : c = '/' => h (hc ▸ List.mem_cons_self)
      have hrest : '/' ∉ rest := fun hmem => h (List.mem_cons_of_mem c hmem)
      rw [segments, hc, ih hrest]
      rfl

theorem ofText_of_isEntryName {name : Text} (h : IsEntryName name) : ofText name = ⟨0, [name]⟩ := by
  have hslashes : name.takeWhile (· == '/') = [] := by
    cases name with
    | nil => rfl
    | cons c rest =>
        refine List.takeWhile_cons_of_neg ?_
        simpa using fun hc : c = '/' => h.no_slash (hc ▸ List.mem_cons_self)
  have hkept : [name].filter (fun s => !s.isEmpty && s != ['.']) = [name] := by
    simp [h.ne_nil, h.ne_dot]
  unfold ofText
  rw [hslashes, segments_of_no_slash h.no_slash, hkept]
  rfl

theorem child_of_isEntryName (p : Path) {name : Text} (h : IsEntryName name) :
    p.child name = { p with parts := p.parts ++ [name] } := by
  rw [child, ofText_of_isEntryName h]
  rfl

/-- No double dots are left where they are taken out together with the names before them. -/
theorem dots_notMem_collapse (parts : List Text) : ['.', '.'] ∉ collapse parts := by
  unfold collapse
  induction parts using List.reverseRecOn with
  | nil => exact List.not_mem_nil
  | append_singleton parts s ih =>
      rw [List.foldl_append]
      dsimp only [List.foldl_cons, List.foldl_nil]
      split
      · exact fun hmem => ih (List.dropLast_subset _ hmem)
      · next hs =>
          intro hmem
          rcases List.mem_append.mp hmem with hmem | hmem
          · exact ih hmem
          · rw [List.mem_singleton.mp hmem] at hs
            exact hs (beq_self_eq_true s)

theorem dots_notMem_above_resolve (cwd start : Path) (n : Nat) :
    ['.', '.'] ∉ ((resolve cwd start).above n).parts := by
  rw [above_eq]
  exact fun hmem => dots_notMem_collapse _ (List.mem_of_mem_take hmem)

theorem isAbsolute_above_resolve (cwd start : Path) (n : Nat) :
    ((resolve cwd start).above n).isAbsolute = true := by
  rw [above_eq]
  rfl

end Path

/-! ## Files -/

namespace FileTree

variable {tree : FileTree}

/-- Whether names lead down, through directories alone, to a directory. -/
def IsDirectory (tree : FileTree) (names : List Text) : Prop :=
  ∀ k ≤ names.length, tree.entry? (names.take k) = some .directory

/-- Names without double dots lead straight down, to the place that they spell. -/
theorem follow_eq_some_iff {here names there : List Text} (hdots : ['.', '.'] ∉ names) :
    tree.follow here names = some there ↔
      (∀ k < names.length, tree.entry? (here ++ names.take k) = some .directory) ∧
      (tree.entry? there).isSome = true ∧ there = here ++ names := by
  induction names generalizing here with
  | nil =>
      rw [follow]
      constructor
      · intro h
        split at h
        · next hsome =>
            cases h
            exact ⟨fun k hk => absurd hk (Nat.not_lt_zero k), hsome, by simp⟩
        · cases h
      · rintro ⟨-, hsome, rfl⟩
        rw [List.append_nil] at hsome ⊢
        rw [if_pos hsome]
  | cons name more ih =>
      have hname : (name == ['.', '.']) = false := by
        simpa using fun hn : name = ['.', '.'] => hdots (hn ▸ List.mem_cons_self)
      have hmore : ['.', '.'] ∉ more := fun hmem => hdots (List.mem_cons_of_mem name hmem)
      -- The directories on the way are the one here and those on the way from the next place.
      have hdown : (∀ k < (name :: more).length,
            tree.entry? (here ++ (name :: more).take k) = some .directory) ↔
          tree.entry? here = some .directory ∧ ∀ k < more.length,
            tree.entry? (here ++ [name] ++ more.take k) = some .directory := by
        constructor
        · intro h
          refine ⟨by simpa using h 0 (Nat.zero_lt_succ _), fun k hk => ?_⟩
          simpa using h (k + 1) (Nat.succ_lt_succ hk)
        · rintro ⟨hhere, h⟩ k hk
          cases k with
          | zero => simpa using hhere
          | succ k => simpa using h k (Nat.lt_of_succ_lt_succ hk)
      rw [follow, hname, hdown]
      by_cases hhere : tree.entry? here = some .directory
      · rw [if_pos (by simpa using hhere), if_neg (by decide), ih hmore]
        simp [hhere]
      · rw [if_neg (by simpa using hhere)]
        simp [hhere]

theorem isFile_iff_look {cwd p : Path} :
    tree.isFile cwd p = true ↔
      ∃ bytes runnable, tree.look? cwd p = some (.file bytes runnable) := by
  unfold isFile file?
  cases hlook : tree.look? cwd p with
  | none => simp
  | some e => cases e <;> simp

/-- An absolute path without double dots leads to a file if and only if a file stands where its names
say, below directories. -/
theorem isFile_entry_iff {cwd d : Path} {name : Text} (habsolute : d.isAbsolute = true)
    (hdots : ['.', '.'] ∉ d.parts) (hname : Path.IsEntryName name) :
    tree.isFile cwd (d.child name) = true ↔
      tree.IsDirectory d.parts ∧
      ∃ bytes runnable, tree.entry? (d.parts ++ [name]) = some (.file bytes runnable) := by
  have hparts : (cwd.join (d.child name)).parts = d.parts ++ [name] := by
    rw [Path.child_of_isEntryName d hname]
    exact congrArg Path.parts (if_pos habsolute)
  have hdots' : ['.', '.'] ∉ d.parts ++ [name] := by
    simpa [hdots] using hname.ne_dots.symm
  -- The directories on the way are those above the last name.
  have hway : (∀ k < (d.parts ++ [name]).length,
        tree.entry? ([] ++ (d.parts ++ [name]).take k) = some .directory) ↔
      tree.IsDirectory d.parts := by
    rw [List.length_append, List.length_singleton]
    refine forall_congr' fun k => ?_
    rw [Nat.lt_succ_iff]
    refine imp_congr_right fun hk => ?_
    rw [List.nil_append, List.take_append_of_le_length hk]
  rw [isFile_iff_look]
  unfold look?
  rw [hparts]
  constructor
  · rintro ⟨bytes, runnable, hlook⟩
    obtain ⟨there, hfollow, hentry⟩ := Option.bind_eq_some_iff.mp hlook
    obtain ⟨hdown, -, rfl⟩ := (follow_eq_some_iff hdots').mp hfollow
    exact ⟨hway.mp hdown, bytes, runnable, hentry⟩
  · rintro ⟨hdirectory, bytes, runnable, hentry⟩
    have hfollow : tree.follow [] (d.parts ++ [name]) = some (d.parts ++ [name]) :=
      (follow_eq_some_iff hdots').mpr ⟨hway.mpr hdirectory, by rw [hentry]; rfl, rfl⟩
    exact ⟨bytes, runnable, by rw [hfollow]; exact hentry⟩

end FileTree

end Runbook
