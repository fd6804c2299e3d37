import Runbook.CommandLine.Options
import Runbook.Proofs.Chain

set_option autoImplicit false

/-! # Where options stop

The words that are read as options are cut into options one after the other: a word with its value
inside or behind it, or a switch. A value may be any word, also one that looks like an option or like
the end of the options, so the cut is found only by reading from the front. What stands behind the cut
has no part in it: in its place there may be any words if two hyphens end the options, and otherwise
any words that begin with an operand, or none.
-/

namespace Runbook.Options

variable {ε α : Type} {options : List (ValueOption ε α)} {switches : List Switch}
  {o o' : Options α} {words rest : List Text}

/-! ## One option -/

/-- The two hyphens that end the options. -/
def terminator : Text := ['-', '-']

/-- Whether no option begins here: there is no word, or the first one is a hyphen or begins with
none. -/
def AtOperand (words : List Text) : Prop := ∀ word ∈ words.head?, word = ['-'] ∨ ¬ ['-'] <+: word

/-- The words of one option with the key it sets and its value: a word with the value inside or behind
it, or a switch. -/
inductive Writes (options : List (ValueOption ε α)) (switches : List Switch) :
    List Text → Text → Setting α → Prop
  | value {word v : Text} {behind : List Text} {spec : ValueOption ε α} {a : α}
      (hend : word ≠ terminator) (hoption : isOperand word = false)
      (hspec : options.find? (·.flag == (Text.cutAt '=' word).1) = some spec)
      (hvalue : takeValue spec (Text.cutAt '=' word).2 behind = .ok (v, []))
      (hread : spec.read v = .ok a) : Writes options switches (word :: behind) spec.key (.value a)
  | switch {word : Text} {s : Switch} (hend : word ≠ terminator) (hoption : isOperand word = false)
      (hspec : options.find? (·.flag == (Text.cutAt '=' word).1) = none)
      (hswitch : switches.find? (·.flags.contains word) = some s) :
      Writes options switches [word] s.key (.switch true)

/-- The words of options one after the other, between the values of keys before and after them. -/
inductive Consumes (options : List (ValueOption ε α)) (switches : List Switch) :
    Options α → List Text → Options α → Prop
  | nil (o : Options α) : Consumes options switches o [] o
  | cons {o o' : Options α} {first more : List Text} {key : Text} {setting : Setting α}
      (hfirst : Writes options switches first key setting)
      (hmore : Consumes options switches (o.put key setting) more o') :
      Consumes options switches o (first ++ more) o'

theorem isOperand_iff {word : Text} : isOperand word = true ↔ word = ['-'] ∨ ¬ ['-'] <+: word := by
  unfold isOperand
  rw [Bool.or_eq_true, beq_iff_eq, bne_iff_ne, or_comm]
  cases word with
  | nil => simp
  | cons c word => simp [List.cons_prefix_cons, eq_comm]

theorem takeValue_append {spec : ValueOption ε α} {inline : Option Text} {behind : List Text}
    {v : Text} (h : takeValue spec inline behind = .ok (v, [])) (rest : List Text) :
    takeValue spec inline (behind ++ rest) = .ok (v, rest) := by
  cases inline <;> cases behind <;> simp_all [takeValue]

theorem exists_of_takeValue {spec : ValueOption ε α} {inline : Option Text} {rest more : List Text}
    {v : Text} (h : takeValue spec inline rest = .ok (v, more)) :
    ∃ behind, rest = behind ++ more ∧ takeValue spec inline behind = .ok (v, []) := by
  cases inline with
  | some w =>
      simp only [takeValue, Except.ok.injEq, Prod.mk.injEq] at h
      exact ⟨[], h.2, by rw [← h.1]; rfl⟩
  | none =>
      cases rest with
      | nil => cases h
      | cons w rest =>
          simp only [takeValue, Except.ok.injEq, Prod.mk.injEq] at h
          exact ⟨[w], by rw [h.2]; rfl, by rw [← h.1]; rfl⟩

/-! ## Reading options -/

/-- Where an option stands, its words are read, and then what stands behind them. -/
theorem readFrom_option {word : Text} (hend : word ≠ terminator) (hoption : isOperand word = false)
    (rest : List Text) :
    readFrom options switches o (word :: rest) =
      match options.find? (·.flag == (Text.cutAt '=' word).1) with
      | some spec => takeValue spec (Text.cutAt '=' word).2 rest >>= fun (v, more) =>
          match spec.read v with
          | .ok a => readFrom options switches (o.put spec.key (.value a)) more
          | .error cause => .error (.badValue cause)
      | none =>
          match switches.find? (·.flags.contains word) with
          | some s => readFrom options switches (o.put s.key (.switch true)) rest
          | none => .error (.unknown word) := by
  have hstop : (word == ['-', '-']) = false := beq_eq_false_iff_ne.mpr hend
  rw [readFrom, hstop, hoption, if_neg (by simp), if_neg (by simp)]
  cases options.find? (·.flag == (Text.cutAt '=' word).1) with
  | none => rfl
  | some spec =>
      dsimp only
      split
      · next fault htake => rw [htake, error_bind]
      · next v more htake =>
          rw [htake]
          rfl

theorem Writes.readFrom {key : Text} {setting : Setting α}
    (h : Writes options switches words key setting) (o : Options α) (rest : List Text) :
    readFrom options switches o (words ++ rest) =
      readFrom options switches (o.put key setting) rest := by
  cases h with
  | value hend hoption hspec hvalue hread =>
      rw [List.cons_append, readFrom_option hend hoption, hspec]
      dsimp only
      rw [takeValue_append hvalue, ok_bind]
      dsimp only
      rw [hread]
  | switch hend hoption hspec hswitch =>
      rw [List.singleton_append, readFrom_option hend hoption, hspec]
      dsimp only
      rw [hswitch]

theorem Consumes.readFrom (h : Consumes options switches o words o') (rest : List Text) :
    readFrom options switches o (words ++ rest) = readFrom options switches o' rest := by
  induction h with
  | nil => rfl
  | cons hfirst _ ih => rw [List.append_assoc, hfirst.readFrom, ih]

theorem readFrom_terminator (rest : List Text) :
    readFrom options switches o (terminator :: rest) = .ok (o, rest) := by
  rw [readFrom]
  rfl

theorem readFrom_atOperand (h : AtOperand rest) :
    readFrom options switches o rest = .ok (o, rest) := by
  cases rest with
  | nil => rw [readFrom]
  | cons word rest =>
      have hword := h word rfl
      -- two hyphens begin with a hyphen and are not one, so they are no operand
      have hstop : (word == ['-', '-']) = false := by
        by_contra hno
        rw [Bool.not_eq_false, beq_iff_eq] at hno
        rw [hno] at hword
        simp at hword
      rw [readFrom, hstop, isOperand_iff.mpr hword]
      rfl

/-- **Where options stop.** Options are read up to a cut: behind it stand the two hyphens that end
them, or no option. -/
theorem exists_of_readFrom (h : readFrom options switches o words = .ok (o', rest)) :
    ∃ c, Consumes options switches o c o' ∧
      (words = c ++ terminator :: rest ∨ words = c ++ rest ∧ AtOperand rest) := by
  -- along the reader: it stops (the first three cases), or takes the words of one option and goes on
  fun_induction Options.readFrom options switches o words with
  | case1 o =>
      cases h
      exact ⟨[], .nil _, Or.inr ⟨rfl, by simp [AtOperand]⟩⟩
  | case2 o word behind hstop =>
      cases h
      have hword : word = terminator := beq_iff_eq.mp hstop
      rw [hword]
      exact ⟨[], .nil _, Or.inl rfl⟩
  | case3 o word behind hstop hoperand =>
      cases h
      refine ⟨[], .nil _, Or.inr ⟨rfl, ?_⟩⟩
      intro w hw
      cases hw
      exact isOperand_iff.mp hoperand
  | case4 o word behind hstop hoption spec hspec fault htake => cases h
  | case5 o word behind hstop hoption spec hspec v more htake a hread ih =>
      obtain ⟨c, hc, hcut⟩ := ih h
      obtain ⟨value, rfl, hvalue⟩ := exists_of_takeValue htake
      have hfirst : Writes options switches (word :: value) spec.key (.value a) :=
        .value (fun heq => hstop (beq_iff_eq.mpr heq)) (by simpa using hoption) hspec hvalue
          hread
      refine ⟨(word :: value) ++ c, .cons hfirst hc, ?_⟩
      rcases hcut with rfl | ⟨rfl, hrest⟩
      · exact Or.inl (by simp)
      · exact Or.inr ⟨by simp, hrest⟩
  | case6 o word behind hstop hoption spec hspec v more htake cause hread => cases h
  | case7 o word behind hstop hoption hspec s hswitch ih =>
      obtain ⟨c, hc, hcut⟩ := ih h
      have hfirst : Writes options switches [word] s.key (.switch true) :=
        .switch (fun heq => hstop (beq_iff_eq.mpr heq)) (by simpa using hoption) hspec hswitch
      refine ⟨[word] ++ c, .cons hfirst hc, ?_⟩
      rcases hcut with rfl | ⟨rfl, hrest⟩
      · exact Or.inl rfl
      · exact Or.inr ⟨rfl, hrest⟩
  | case8 o word behind hstop hoption hspec hswitch => cases h

/-- **Options stop at the first operand.** Words that are read as options and a rest are cut into the
words of the options and the rest. Either the options end with two hyphens, and then any words in the
place of the rest are given back as they are, with the same values of the options; or the rest is empty
or begins with an operand, and then this holds of all words that are empty or begin with one. -/
theorem read_cut (h : read options switches words = .ok (o, rest)) :
    ∃ c, words = c ++ rest ∧
      ((∃ used, c = used ++ [terminator] ∧
          Consumes options switches (initial options switches) used o ∧
          ∀ r, read options switches (c ++ r) = .ok (o, r)) ∨
        (Consumes options switches (initial options switches) c o ∧ AtOperand rest ∧
          ∀ r, AtOperand r → read options switches (c ++ r) = .ok (o, r))) := by
  obtain ⟨c, hc, hwords | ⟨hwords, hrest⟩⟩ := exists_of_readFrom h
  · refine ⟨c ++ [terminator], by simp [hwords], Or.inl ⟨c, rfl, hc, fun r => ?_⟩⟩
    have hcut : c ++ [terminator] ++ r = c ++ terminator :: r := by simp
    unfold read
    rw [hcut, hc.readFrom, readFrom_terminator]
  · refine ⟨c, hwords, Or.inr ⟨hc, hrest, fun r hr => ?_⟩⟩
    unfold read
    rw [hc.readFrom, readFrom_atOperand hr]

/-- An option takes the two hyphens behind it as its value; the next two end the options, so that any
words may stand behind them, also those that look like options. -/
theorem read_cut_terminator :
    let file : ValueOption Unit Text := ⟨"file".toList, "-f".toList, [], .ok⟩
    let quiet : Switch := ⟨"quiet".toList, ["-q".toList]⟩
    let used := ["-f".toList, terminator, "-q".toList, terminator]
    let o : Options Text := [("file".toList, .value terminator), ("quiet".toList, .switch true)]
    read [file] [quiet] (used ++ ["-x".toList, "-q".toList]) = .ok (o, ["-x".toList, "-q".toList]) ∧
    ∀ r, read [file] [quiet] (used ++ r) = .ok (o, r) := by
  intro file quiet used o
  have hread : read [file] [quiet] (used ++ ["-x".toList, "-q".toList]) =
      .ok (o, ["-x".toList, "-q".toList]) := by cbv
  obtain ⟨c, hc, ⟨_, _, _, hany⟩ | ⟨_, hrest, _⟩⟩ := read_cut hread
  · rw [← List.append_cancel_right hc] at hany
    exact ⟨hread, hany⟩
  · exact absurd (hrest "-x".toList rfl) (by decide)

end Runbook.Options
