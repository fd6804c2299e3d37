import Runbook.Discovery
import Runbook.Proofs.FileTree

set_option autoImplicit false

/-! # The nearest recipe file

A search takes the directories from the first one up to the root, and in each of them the names in
their order. So it ends at the nearest directory that contains a file with one of the names, and there
at the first such name, unless it comes to a path that is too long before: there it breaks off, whatever
stands further on.
-/

namespace Runbook

/-! ## The order of a search -/

/-- What a search through the numbers below `k` yields comes from the least that yields something. -/
theorem findSome?_range_eq_some_iff {α : Type} {f : Nat → Option α} {k : Nat} {a : α} :
    (List.range k).findSome? f = some a ↔ ∃ n < k, f n = some a ∧ ∀ m < n, f m = none := by
  induction k with
  | zero => simp
  | succ k ih =>
      rw [List.range_succ, List.findSome?_append, Option.or_eq_some_iff, ih,
        List.findSome?_eq_none_iff, List.findSome?_singleton]
      constructor
      · rintro (⟨n, hn, hfound⟩ | ⟨hbefore, hlast⟩)
        · exact ⟨n, Nat.lt_succ_of_lt hn, hfound⟩
        · exact ⟨k, Nat.lt_succ_self k, hlast, fun m hm => hbefore m (List.mem_range.mpr hm)⟩
      · rintro ⟨n, hn, hfound, hbefore⟩
        rcases Nat.lt_succ_iff_lt_or_eq.mp hn with hn | rfl
        · exact Or.inl ⟨n, hn, hfound, hbefore⟩
        · exact Or.inr ⟨fun m hm => hbefore m (List.mem_range.mp hm), hfound⟩

namespace Path

/-- The paths that a search comes to, one after the other. -/
def candidates (dir : Path) (names : List Text) : List Path :=
  dir.ancestors.flatMap fun d => names.map d.child

/-- Of all paths that a search comes to, the one in the directory `n` levels up that has the name
`name` is the first with the property `P`: no nearer directory has such a path, and in this directory
no name that stands before does. -/
structure ComesFirst (P : Path → Bool) (dir : Path) (names : List Text) (n : Nat) (name : Text) :
    Prop where
  within : n ≤ dir.parts.length
  nearer : ∀ m < n, ∀ other ∈ names, P ((dir.above m).child other) = false
  earlier : ∃ before after, names = before ++ name :: after ∧
    ∀ other ∈ before, P ((dir.above n).child other) = false
  holds : P ((dir.above n).child name) = true

variable {P : Path → Bool} {dir : Path} {names : List Text}

/-- The first name of a list that leads to a path with the property `P`. -/
theorem find?_map_child_eq_some_iff {d p : Path} :
    (names.map d.child).find? P = some p ↔
      ∃ name, p = d.child name ∧ P (d.child name) = true ∧
        ∃ before after, names = before ++ name :: after ∧
          ∀ other ∈ before, P (d.child other) = false := by
  rw [List.find?_map, Option.map_eq_some_iff]
  constructor
  · rintro ⟨name, hname, rfl⟩
    obtain ⟨hholds, before, after, hnames, hbefore⟩ := List.find?_eq_some_iff_append.mp hname
    exact ⟨name, rfl, hholds, before, after, hnames, by simpa using hbefore⟩
  · rintro ⟨name, rfl, hholds, before, after, hnames, hbefore⟩
    refine ⟨name, List.find?_eq_some_iff_append.mpr ⟨hholds, before, after, hnames, ?_⟩, rfl⟩
    simpa using hbefore

theorem find?_map_child_eq_none_iff {d : Path} :
    (names.map d.child).find? P = none ↔ ∀ other ∈ names, P (d.child other) = false := by
  simp [List.find?_eq_none]

theorem find?_candidates :
    (dir.candidates names).find? P = (List.range (dir.parts.length + 1)).findSome? fun n =>
      (names.map (dir.above n).child).find? P := by
  rw [candidates, List.find?_flatMap, ancestors_eq, List.findSome?_map]
  rfl

theorem find?_candidates_eq_some_iff {p : Path} :
    (dir.candidates names).find? P = some p ↔
      ∃ n name, ComesFirst P dir names n name ∧ p = (dir.above n).child name := by
  rw [find?_candidates, findSome?_range_eq_some_iff]
  constructor
  · rintro ⟨n, hn, hfound, hnone⟩
    obtain ⟨name, rfl, hholds, hearlier⟩ := find?_map_child_eq_some_iff.mp hfound
    have hnearer := fun m hm => find?_map_child_eq_none_iff.mp (hnone m hm)
    exact ⟨n, name, ⟨Nat.le_of_lt_succ hn, hnearer, hearlier, hholds⟩, rfl⟩
  · rintro ⟨n, name, ⟨hwithin, hnearer, hearlier, hholds⟩, rfl⟩
    refine ⟨n, Nat.lt_succ_of_le hwithin, ?_, fun m hm => ?_⟩
    · exact find?_map_child_eq_some_iff.mpr ⟨name, rfl, hholds, hearlier⟩
    · exact find?_map_child_eq_none_iff.mpr (hnearer m hm)

theorem find?_candidates_eq_none_iff :
    (dir.candidates names).find? P = none ↔
      ∀ n ≤ dir.parts.length, ∀ name ∈ names, P ((dir.above n).child name) = false := by
  rw [find?_candidates, List.findSome?_eq_none_iff]
  simp only [List.mem_range, Nat.lt_succ_iff, find?_map_child_eq_none_iff]

end Path

/-! ## Where a search ends -/

namespace FileTree

/-- Whether a search ends at a path: at a file, or where the path is too long. -/
def halts (tree : FileTree) (cwd p : Path) : Bool := tree.isOverlong cwd p || tree.isFile cwd p

/-- Whether `file` is the nearest one: it stands in the nearest directory that contains a file with one
of the names, and has the first of the names that files have there. -/
def IsNearest (tree : FileTree) (cwd dir : Path) (names : List Text) (file : Path) : Prop :=
  ∃ n name, dir.ComesFirst (tree.isFile cwd) names n name ∧ file = (dir.above n).child name

/-- Whether a search comes to the path `p`, which is too long, before it comes to a file. -/
def Blocks (tree : FileTree) (cwd dir : Path) (names : List Text) (p : Path) : Prop :=
  tree.isOverlong cwd p = true ∧
    ∃ n name, dir.ComesFirst (tree.halts cwd) names n name ∧ p = (dir.above n).child name

/-- Whether nothing breaks a search off: the path of the directory where it begins has no null
character, and no path that is too long comes before the first file. -/
def Unhindered (tree : FileTree) (cwd start : Path) (names : List Text) : Prop :=
  '\x00' ∉ start.toText ∧ ∀ p, ¬ tree.Blocks cwd (Path.resolve cwd start) names p

end FileTree

variable {tree : FileTree} {cwd start dir : Path} {names : List Text}

theorem isNearest_iff {file : Path} :
    tree.IsNearest cwd dir names file ↔
      (dir.candidates names).find? (tree.isFile cwd) = some file :=
  Path.find?_candidates_eq_some_iff.symm

theorem blocks_iff {p : Path} :
    tree.Blocks cwd dir names p ↔ tree.isOverlong cwd p = true ∧
      (dir.candidates names).find? (tree.halts cwd) = some p :=
  and_congr_right fun _ => Path.find?_candidates_eq_some_iff.symm

/-- Where no path is in its way, a search ends at a file alone. -/
theorem find?_isFile_of_not_blocks (h : ∀ p, ¬ tree.Blocks cwd dir names p) :
    (dir.candidates names).find? (tree.isFile cwd) =
      (dir.candidates names).find? (tree.halts cwd) := by
  cases hfound : (dir.candidates names).find? (tree.halts cwd) with
  | none =>
      -- Where the search does not halt there is no file.
      rw [List.find?_eq_none] at hfound ⊢
      intro p hp hfile
      exact hfound p hp (by rw [FileTree.halts, hfile, Bool.or_true])
  | some p =>
      -- It halts at a path that is not too long, hence at a file, and it has passed over no file.
      have hshort : tree.isOverlong cwd p = false :=
        Bool.eq_false_iff.mpr fun hlong => h p (blocks_iff.mpr ⟨hlong, hfound⟩)
      obtain ⟨hhalts, before, after, hcandidates, hbefore⟩ :=
        List.find?_eq_some_iff_append.mp hfound
      rw [FileTree.halts, hshort, Bool.false_or] at hhalts
      refine List.find?_eq_some_iff_append.mpr ⟨hhalts, before, after, hcandidates, ?_⟩
      intro q hq
      have hnot := hbefore q hq
      rw [FileTree.halts, Bool.not_or, Bool.and_eq_true] at hnot
      exact hnot.2

/-! ## The answers of a search -/

theorem firstFile?_eq (paths : List Path) :
    firstFile? tree cwd paths =
      match paths.find? (tree.halts cwd) with
      | none => .ok none
      | some p => if tree.isOverlong cwd p then .error (.overlong p) else .ok (some p) := by
  induction paths with
  | nil => rfl
  | cons p rest ih =>
      rw [firstFile?, List.find?_cons, FileTree.halts]
      by_cases hlong : tree.isOverlong cwd p = true
      · simp [hlong]
      · by_cases hfile : tree.isFile cwd p = true
        · simp [hlong, hfile]
        · simp [hlong, hfile, ih]

theorem findRecipeFile_of_null (h : '\x00' ∈ start.toText) :
    findRecipeFile tree cwd start names = .error .nullCharacter := by
  unfold findRecipeFile
  rw [if_pos (by simpa using h)]

/-- A search ends at the first path at which it can, and is in vain where there is none. -/
theorem findRecipeFile_eq (h : '\x00' ∉ start.toText) :
    findRecipeFile tree cwd start names =
      match ((Path.resolve cwd start).candidates names).find? (tree.halts cwd) with
      | none => .error (.notFound names (Path.resolve cwd start))
      | some p => if tree.isOverlong cwd p then .error (.overlong p) else .ok p := by
  unfold findRecipeFile
  rw [if_neg (by simpa using h)]
  dsimp only
  rw [← Path.candidates, firstFile?_eq]
  cases ((Path.resolve cwd start).candidates names).find? (tree.halts cwd) with
  | none => rfl
  | some p =>
      dsimp only
      by_cases hlong : tree.isOverlong cwd p = true
      · rw [if_pos hlong, if_pos hlong]
      · rw [if_neg hlong, if_neg hlong]

theorem findRecipeFile_eq_null_iff :
    findRecipeFile tree cwd start names = .error .nullCharacter ↔ '\x00' ∈ start.toText := by
  refine ⟨fun h => ?_, findRecipeFile_of_null⟩
  by_contra hnull
  rw [findRecipeFile_eq hnull] at h
  split at h
  · cases h
  · split at h
    · cases h
    · cases h

theorem findRecipeFile_eq_overlong_iff {p : Path} :
    findRecipeFile tree cwd start names = .error (.overlong p) ↔
      '\x00' ∉ start.toText ∧ tree.Blocks cwd (Path.resolve cwd start) names p := by
  by_cases hnull : '\x00' ∈ start.toText
  · rw [findRecipeFile_of_null hnull]
    simp [hnull]
  · rw [findRecipeFile_eq hnull, blocks_iff]
    cases hfound : ((Path.resolve cwd start).candidates names).find? (tree.halts cwd) with
    | none => simp
    | some q =>
        dsimp only
        by_cases hlong : tree.isOverlong cwd q = true
        · rw [if_pos hlong]
          constructor
          · intro h
            cases h
            exact ⟨hnull, hlong, rfl⟩
          · rintro ⟨-, -, hq⟩
            cases hq
            rfl
        · rw [if_neg hlong]
          constructor
          · intro h
            cases h
          · rintro ⟨-, hp, hq⟩
            cases hq
            exact absurd hp hlong

theorem unhindered_iff :
    tree.Unhindered cwd start names ↔
      findRecipeFile tree cwd start names ≠ .error .nullCharacter ∧
      ∀ p, findRecipeFile tree cwd start names ≠ .error (.overlong p) := by
  simp only [ne_eq, findRecipeFile_eq_null_iff, findRecipeFile_eq_overlong_iff]
  exact and_congr_right fun hnull => forall_congr' fun p => by simp [hnull]

/-- A search that nothing breaks off ends at the first file, and else in vain. -/
theorem findRecipeFile_of_unhindered (h : tree.Unhindered cwd start names) :
    findRecipeFile tree cwd start names =
      match ((Path.resolve cwd start).candidates names).find? (tree.isFile cwd) with
      | none => .error (.notFound names (Path.resolve cwd start))
      | some file => .ok file := by
  rw [findRecipeFile_eq h.1, find?_isFile_of_not_blocks h.2]
  cases hfound : ((Path.resolve cwd start).candidates names).find? (tree.halts cwd) with
  | none => rfl
  | some p => exact if_neg fun hlong => h.2 p (blocks_iff.mpr ⟨hlong, hfound⟩)

theorem findRecipeFile_eq_ok_iff {file : Path} :
    findRecipeFile tree cwd start names = .ok file ↔
      tree.Unhindered cwd start names ∧
      tree.IsNearest cwd (Path.resolve cwd start) names file := by
  rw [isNearest_iff]
  constructor
  · intro h
    have hfree : tree.Unhindered cwd start names := unhindered_iff.mpr (by simp [h])
    rw [findRecipeFile_of_unhindered hfree] at h
    refine ⟨hfree, ?_⟩
    split at h
    · cases h
    · next hfound =>
        cases h
        exact hfound
  · rintro ⟨hfree, hfound⟩
    rw [findRecipeFile_of_unhindered hfree, hfound]

theorem findRecipeFile_eq_notFound_iff {others : List Text} {place : Path} :
    findRecipeFile tree cwd start names = .error (.notFound others place) ↔
      tree.Unhindered cwd start names ∧
      (∀ n ≤ (Path.resolve cwd start).parts.length, ∀ name ∈ names,
        tree.isFile cwd (((Path.resolve cwd start).above n).child name) = false) ∧
      others = names ∧ place = Path.resolve cwd start := by
  rw [← Path.find?_candidates_eq_none_iff]
  constructor
  · intro h
    have hfree : tree.Unhindered cwd start names := unhindered_iff.mpr (by simp [h])
    rw [findRecipeFile_of_unhindered hfree] at h
    refine ⟨hfree, ?_⟩
    split at h
    · next hfound =>
        cases h
        exact ⟨hfound, rfl, rfl⟩
    · cases h
  · rintro ⟨hfree, hnone, rfl, rfl⟩
    rw [findRecipeFile_of_unhindered hfree, hnone]

/-- **A search finds the nearest file, unless a path that is too long comes before it.** It answers with
a file if and only if this is the nearest one, and that there is none if and only if no directory up to
the root contains one; a directory is no answer. It breaks off at a path that is too long where that
comes before every file, even if a file with another name follows. A directory contains a file with a
name if it is a directory of the tree and the tree has a file at its entry of this name. -/
theorem findRecipeFile_cases (tree : FileTree) (cwd start : Path) (names : List Text) :
    let dir := Path.resolve cwd start
    let answer := findRecipeFile tree cwd start names
    (∀ file, answer = .ok file ↔
      tree.Unhindered cwd start names ∧ tree.IsNearest cwd dir names file) ∧
    (∀ others place, answer = .error (.notFound others place) ↔
      tree.Unhindered cwd start names ∧
      (∀ n ≤ dir.parts.length, ∀ name ∈ names,
        tree.isFile cwd ((dir.above n).child name) = false) ∧
      others = names ∧ place = dir) ∧
    (∀ p, answer = .error (.overlong p) ↔
      '\x00' ∉ start.toText ∧ tree.Blocks cwd dir names p) ∧
    (answer = .error .nullCharacter ↔ '\x00' ∈ start.toText) ∧
    (∀ file, answer = .ok file → tree.look? cwd file ≠ some .directory) ∧
    ∀ n name, Path.IsEntryName name →
      (tree.isFile cwd ((dir.above n).child name) = true ↔
        tree.IsDirectory (dir.above n).parts ∧
        ∃ bytes runnable,
          tree.entry? ((dir.above n).parts ++ [name]) = some (.file bytes runnable)) := by
  intro dir answer
  refine ⟨fun file => findRecipeFile_eq_ok_iff, fun others place => findRecipeFile_eq_notFound_iff,
    fun p => findRecipeFile_eq_overlong_iff, findRecipeFile_eq_null_iff, ?_, ?_⟩
  · intro file h hdirectory
    obtain ⟨-, n, name, hfirst, rfl⟩ := findRecipeFile_eq_ok_iff.mp h
    obtain ⟨bytes, runnable, hfile⟩ := FileTree.isFile_iff_look.mp hfirst.holds
    rw [hdirectory] at hfile
    cases hfile
  · intro n name hname
    exact FileTree.isFile_entry_iff (Path.isAbsolute_above_resolve cwd start n)
      (Path.dots_notMem_above_resolve cwd start n) hname

/-- A nearer directory wins over a name that stands before, and a directory with such a name is passed
over. -/
example :
    let tree := ((FileTree.empty.addFile ["Runfile".toList] []).addFile
      [['a'], "justfile".toList] []).makeDirectories [['a'], ['b'], "Runfile".toList]
    findRecipeFile tree ⟨1, [['a'], ['b']]⟩ ⟨0, []⟩ recipeFileNames =
      .ok ⟨1, [['a'], "justfile".toList]⟩ := by
  decide +kernel

/-- A name of 256 bytes is too long for a file. A search for it does not end in vain but breaks off,
and so does a search for this name and for another one that a file has. -/
theorem findRecipeFile_overlong_name :
    let tree := FileTree.empty.addFile ["Runfile".toList] []
    let root : Path := ⟨1, []⟩
    let name : Text := List.replicate 256 'n'
    let file : Path := ⟨1, ["Runfile".toList]⟩
    Path.resolve root root = root ∧
    ((∀ n ≤ root.parts.length, ∀ other ∈ [name],
        tree.isFile root ((root.above n).child other) = false) ∧
      findRecipeFile tree root root [name] ≠ .error (.notFound [name] root)) ∧
    tree.IsNearest root root [name, "Runfile".toList] file ∧
      findRecipeFile tree root root [name, "Runfile".toList] ≠ .ok file := by
  intro tree root name file
  refine ⟨by decide +kernel, ⟨by decide +kernel, by decide +kernel⟩, ?_, by decide +kernel⟩
  exact isNearest_iff.mpr (by decide +kernel)

end Runbook
