import Runbook.Proofs.Settings.Words
import Runbook.Proofs.Text.Wide
import Runbook.Settings.Basic

set_option autoImplicit false

/-! # How settings are checked

A check of a value passes, or refuses the value with a fault that is reported, or breaks the run off
with a fault that is not. `CheckEnds` says which of the three it is, and under which conditions; it
goes through a chain of checks, where the first one that does not pass decides. For each setting the
conditions are stated in terms of its value, and from them follows how a whole layer is resolved.

Two things break off. A text for the shell may end between quotes or behind a backslash, and a value
that has to be shown, in a message or as text, may hold an integer that is too long to be written.
-/

namespace Runbook

variable {α β : Type}

/-! ## How a check ends -/

/-- How a check ends: it passes a value that is `valid`, breaks off if the value `breaks` it, and
otherwise refuses the value with a fault that is reported. -/
inductive CheckEnds (x : Except SettingsFault α) (valid breaks : Prop) : Prop
  | passes {a : α} (hresult : x = .ok a) (hvalid : valid) (hbreaks : ¬ breaks)
  | reported {fault : SettingsFault} (hresult : x = .error fault) (hcode : fault.exitCode? = some 2)
      (hvalid : ¬ valid) (hbreaks : ¬ breaks)
  | breaksOff {fault : SettingsFault} (hresult : x = .error fault) (hcode : fault.exitCode? = none)
      (hvalid : ¬ valid) (hbreaks : breaks)

namespace CheckEnds

variable {x : Except SettingsFault α} {f : α → Except SettingsFault β}
  {valid valid' breaks breaks' : Prop}

/-- The first check that does not pass decides. -/
theorem bind (hx : CheckEnds x valid breaks)
    (hf : ∀ a, x = .ok a → CheckEnds (f a) valid' breaks') :
    CheckEnds (x >>= f) (valid ∧ valid') (breaks ∨ valid ∧ breaks') := by
  cases hx with
  | passes hresult hvalid hbreaks =>
      have hnext := hf _ hresult
      rw [hresult, ok_bind]
      cases hnext with
      | passes h hv hb => exact .passes h ⟨hvalid, hv⟩ (by tauto)
      | reported h hcode hv hb => exact .reported h hcode (by tauto) (by tauto)
      | breaksOff h hcode hv hb => exact .breaksOff h hcode (by tauto) (by tauto)
  | reported hresult hcode hvalid hbreaks =>
      rw [hresult, error_bind]
      exact .reported rfl hcode (by tauto) (by tauto)
  | breaksOff hresult hcode hvalid hbreaks =>
      rw [hresult, error_bind]
      exact .breaksOff rfl hcode (by tauto) (by tauto)

theorem congr (hx : CheckEnds x valid breaks) (hvalid : valid ↔ valid') (hbreaks : breaks ↔ breaks') :
    CheckEnds x valid' breaks' := by
  rw [← hvalid, ← hbreaks]
  exact hx

theorem ok (a : α) : CheckEnds (.ok a) True False := .passes rfl trivial id

end CheckEnds

/-- A value is refused with a fault that shows it, if it can be shown. -/
theorem refuseValue_ends {fault : Value → SettingsFault} {v : Value} {valid : Prop}
    (hcode : (fault v).exitCode? = some 2) (hvalid : ¬ valid) :
    CheckEnds (refuseValue fault v : Except SettingsFault α) valid
      (¬ valid ∧ v.isShowable = false) := by
  unfold refuseValue showable
  by_cases hshow : v.isShowable = true
  · rw [if_pos hshow, ok_bind]
    exact .reported rfl hcode hvalid (by simp [hshow])
  · rw [if_neg hshow, error_bind]
    exact .breaksOff rfl rfl hvalid ⟨hvalid, by simpa using hshow⟩

/-! ## The shell -/

/-- Whether a value is a list of texts that is not empty. -/
def Value.IsWords (v : Value) : Prop := ∃ ts : List Wide, ts ≠ [] ∧ v = .list (ts.map .text)

/-- Whether a value names a shell: as a list of texts, or as one text, which is not made of separators
and ends neither between quotes nor behind a backslash. -/
def Value.IsShell (v : Value) : Prop :=
  v.IsWords ∨ ∃ t, v = .text t ∧ Words.fault? t = none ∧ ∃ p ∈ t, Words.isSeparator p = false

/-- Whether a value for the shell breaks off: a text ends between quotes or behind a backslash, or a
value that names no shell cannot be shown. -/
def Value.BreaksShell (v : Value) : Prop :=
  (∃ t fault, v = .text t ∧ Words.fault? t = some fault) ∨ ¬ v.IsShell ∧ v.isShowable = false

theorem texts?_eq_some_iff {items : List Value} {ts : List Wide} :
    texts? items = some ts ↔ items = ts.map .text := by
  induction items generalizing ts with
  | nil =>
      rw [texts?, Option.some.injEq, eq_comm, eq_comm (a := []), List.map_eq_nil_iff]
  | cons v items ih =>
      cases v with
      | text t =>
          rw [texts?, Option.map_eq_map, Option.map_eq_some_iff]
          constructor
          · rintro ⟨more, hmore, rfl⟩
            rw [ih.mp hmore, List.map_cons]
          · intro h
            cases ts with
            | nil => cases h
            | cons u more =>
                obtain ⟨hfirst, hmore⟩ := List.cons.inj h
                cases hfirst
                exact ⟨more, ih.mpr hmore, rfl⟩
      | _ => cases ts <;> simp [texts?]

theorem areShowable_map_text (ts : List Wide) : Value.areShowable (ts.map .text) = true := by
  induction ts with
  | nil => rfl
  | cons t ts ih => simpa [Value.areShowable, Value.isShowable] using ih

theorem isWords_map_text_iff {ts : List Wide} : (Value.list (ts.map .text)).IsWords ↔ ts ≠ [] := by
  constructor
  · rintro ⟨us, hne, heq⟩ rfl
    rw [List.map_nil, Value.list.injEq, eq_comm, List.map_eq_nil_iff] at heq
    exact hne heq
  · intro hne
    exact ⟨ts, hne, rfl⟩

theorem checkWords_of_isWords {ts : List Wide} (h : ts ≠ []) :
    checkWords (.list (ts.map .text)) = .ok ts := by
  obtain ⟨t, more, rfl⟩ := List.exists_cons_of_ne_nil h
  have htexts : texts? ((t :: more).map .text) = some (t :: more) := texts?_eq_some_iff.mpr rfl
  rw [List.map_cons] at htexts ⊢
  rw [checkWords, htexts]

theorem checkWords_of_not_isWords {v : Value} (h : ¬ v.IsWords) :
    checkWords v = refuseValue .badShell v := by
  unfold checkWords
  split
  · next item items =>
      split
      · next ts hts =>
          have hitems := texts?_eq_some_iff.mp hts
          have hne : ts ≠ [] := by
            rintro rfl
            cases hitems
          exact absurd ⟨ts, hne, congrArg Value.list hitems⟩ h
      · rfl
  · rfl

theorem checkWords_ends (v : Value) :
    CheckEnds (checkWords v) v.IsWords (¬ v.IsWords ∧ v.isShowable = false) := by
  by_cases h : v.IsWords
  · obtain ⟨ts, hne, rfl⟩ := h
    exact .passes (checkWords_of_isWords hne) ⟨ts, hne, rfl⟩ (fun hno => hno.1 ⟨ts, hne, rfl⟩)
  · rw [checkWords_of_not_isWords h]
    exact refuseValue_ends rfl h

/-- A text for the shell is cut into words, which are then checked. -/
theorem checkShell_text_ends (t : Wide) :
    CheckEnds (checkShell (.text t)) (Value.text t).IsShell (Value.text t).BreaksShell := by
  have hshell : (Value.text t).IsShell ↔
      Words.fault? t = none ∧ ∃ p ∈ t, Words.isSeparator p = false := by
    constructor
    · rintro (⟨ts, _, heq⟩ | ⟨u, heq, hu⟩)
      · cases heq
      · cases heq
        exact hu
    · intro h
      exact Or.inr ⟨t, rfl, h⟩
  have hbreaks : (Value.text t).BreaksShell ↔ ∃ fault, Words.fault? t = some fault := by
    constructor
    · rintro (⟨u, fault, heq, hu⟩ | ⟨_, hshow⟩)
      · cases heq
        exact ⟨fault, hu⟩
      · cases hshow
    · rintro ⟨fault, hfault⟩
      exact Or.inl ⟨t, fault, rfl, hfault⟩
  rw [hshell, hbreaks]
  unfold checkShell
  dsimp only
  cases hsplit : Words.split t with
  | error fault =>
      have hfault := Words.split_eq_error_iff.mp hsplit
      exact .breaksOff rfl rfl (by simp [hfault]) ⟨fault, hfault⟩
  | ok ws =>
      -- the words are texts, so all that can be wrong with them is that there are none
      have hclosed := Words.fault?_of_split hsplit
      have hsome : ws ≠ [] ↔ ∃ p ∈ t, Words.isSeparator p = false := by
        have hnil := Words.split_eq_nil_iff (t := t)
        rw [hsplit, Except.ok.injEq] at hnil
        rw [ne_eq, hnil]
        simp
      refine (checkWords_ends (.list (ws.map .text))).congr ?_ ?_
      · rw [isWords_map_text_iff, hsome]
        simp [hclosed]
      · rw [Value.isShowable, areShowable_map_text, hclosed]
        simp

theorem checkShell_ends (v : Value) : CheckEnds (checkShell v) v.IsShell v.BreaksShell := by
  by_cases htext : ∃ t, v = .text t
  · obtain ⟨t, rfl⟩ := htext
    exact checkShell_text_ends t
  · have hcheck : checkShell v = checkWords v := by
      unfold checkShell
      split
      · next t => exact absurd ⟨t, rfl⟩ htext
      · rfl
    have hshell : v.IsWords ↔ v.IsShell := by
      constructor
      · exact Or.inl
      · rintro (h | ⟨t, rfl, _⟩)
        · exact h
        · exact absurd ⟨t, rfl⟩ htext
    rw [hcheck]
    refine (checkWords_ends v).congr hshell ?_
    rw [hshell]
    constructor
    · exact Or.inr
    · rintro (⟨t, _, rfl, _⟩ | h)
      · exact absurd ⟨t, rfl⟩ htext
      · exact h

/-- A shell that is accepted names a command. -/
theorem ne_nil_of_checkWords {v : Value} {ts : List Wide} (h : checkWords v = .ok ts) : ts ≠ [] := by
  by_cases hv : v.IsWords
  · obtain ⟨us, hne, rfl⟩ := hv
    rw [checkWords_of_isWords hne] at h
    cases h
    exact hne
  · rw [checkWords_of_not_isWords hv] at h
    unfold refuseValue showable at h
    split at h <;> cases h

theorem ne_nil_of_checkShell {v : Value} {ts : List Wide} (h : checkShell v = .ok ts) : ts ≠ [] := by
  unfold checkShell at h
  split at h
  · split at h
    · exact ne_nil_of_checkWords h
    · cases h
  · exact ne_nil_of_checkWords h

/-! ## The echo and the log level -/

/-- The words for truth values. -/
def truthWords : List Text :=
  ["1", "true", "yes", "on", "0", "false", "no", "off"].map String.toList

/-- Whether a value stands for a truth value: it is one, or a word for one in any case of letters. -/
def Value.IsTruth (v : Value) : Prop :=
  (∃ b, v = .bool b) ∨ ∃ t, v = .ofText t ∧ lowered t ∈ truthWords

/-- Whether a value names a log level, in any case of letters. -/
def Value.IsLevel (v : Value) : Prop :=
  v.isShowable = true ∧ ∃ t, v.plain = .ofText t ∧ ∃ l : LogLevel, raised t = l.name.toList

theorem exists_truthOf?_iff {word : Text} : (∃ b, truthOf? word = some b) ↔ word ∈ truthWords := by
  have hword : ∀ words : List String,
      words.any (·.toList == word) = true ↔ word ∈ words.map String.toList := by
    intro words
    simp
  have hsplit : truthWords = ["1", "true", "yes", "on"].map String.toList ++
      ["0", "false", "no", "off"].map String.toList := rfl
  unfold truthOf?
  rw [hsplit, List.mem_append, ← hword, ← hword]
  split_ifs with htrue hfalse
  · simp [htrue]
  · simp [hfalse]
  · simp [htrue, hfalse]

theorem checkEcho_of_isTruth {v : Value} (h : v.IsTruth) : ∃ b, checkEcho v = .ok b := by
  rcases h with ⟨b, rfl⟩ | ⟨t, rfl, ht⟩
  · exact ⟨b, rfl⟩
  · obtain ⟨b, hb⟩ := exists_truthOf?_iff.mpr ht
    refine ⟨b, ?_⟩
    rw [Value.ofText, checkEcho, Wide.text?_ofText, Option.bind_some, hb]

theorem checkEcho_of_not_isTruth {v : Value} (h : ¬ v.IsTruth) :
    checkEcho v = refuseValue .badEcho v := by
  unfold checkEcho
  split
  · next b => exact absurd (Or.inl ⟨b, rfl⟩) h
  · next t =>
      split
      · next b hb =>
          obtain ⟨u, hu, htruth⟩ := Option.bind_eq_some_iff.mp hb
          rw [Wide.text?_eq_some_iff.mp hu] at h
          exact absurd (Or.inr ⟨u, rfl, exists_truthOf?_iff.mp ⟨b, htruth⟩⟩) h
      · rfl
  · rfl

theorem checkEcho_ends (v : Value) :
    CheckEnds (checkEcho v) v.IsTruth (¬ v.IsTruth ∧ v.isShowable = false) := by
  by_cases h : v.IsTruth
  · obtain ⟨b, hb⟩ := checkEcho_of_isTruth h
    exact .passes hb h (fun hno => hno.1 h)
  · rw [checkEcho_of_not_isTruth h]
    exact refuseValue_ends rfl h

theorem LogLevel.mem_all (l : LogLevel) : l ∈ LogLevel.all := by
  cases l <;> decide

theorem checkLogLevel_ends (v : Value) :
    CheckEnds (checkLogLevel v) v.IsLevel (v.isShowable = false) := by
  unfold checkLogLevel showable
  by_cases hshow : v.isShowable = true
  · rw [if_pos hshow, ok_bind]
    have hbreaks : ¬ v.isShowable = false := by simp [hshow]
    split
    · next l hl =>
        obtain ⟨t, ht, hfind⟩ := Option.bind_eq_some_iff.mp hl
        have hname : l.name.toList = raised t := by simpa using List.find?_some hfind
        exact .passes rfl ⟨hshow, t, Wide.text?_eq_some_iff.mp ht, l, hname.symm⟩ hbreaks
    · next hnone =>
        refine .reported rfl rfl ?_ hbreaks
        rintro ⟨_, t, ht, l, hl⟩
        rw [ht, Wide.text?_ofText, Option.bind_some, List.find?_eq_none] at hnone
        exact hnone l l.mem_all (by simp [hl])
  · rw [if_neg hshow, error_bind]
    exact .breaksOff rfl rfl (fun h => hshow h.1) (by simpa using hshow)

/-! ## The recipe file -/

theorem checkRecipeFile_ends (o : Option Value) :
    CheckEnds (o.mapM checkRecipeFile) (∀ v ∈ o, v.isShowable = true)
      (∃ v ∈ o, v.isShowable = false) := by
  cases o with
  | none => exact .passes rfl (by simp) (by simp)
  | some v =>
      have hcheck : (some v).mapM checkRecipeFile =
          (showable v >>= fun v => Except.ok (some v.plain)) := by
        show (some <$> checkRecipeFile v) = _
        unfold checkRecipeFile
        cases showable v <;> rfl
      rw [hcheck]
      unfold showable
      by_cases hshow : v.isShowable = true
      · rw [if_pos hshow]
        exact .passes rfl (by simpa using hshow) (by simpa using hshow)
      · rw [if_neg hshow]
        exact .breaksOff rfl rfl (by simpa using hshow) (by simpa using hshow)

/-! ## Layers -/

namespace Layer

/-- Whether every value that a layer gives is valid for its setting. -/
structure IsValid (given : Layer) : Prop where
  recipeFile : ∀ v ∈ given.recipeFile, v.isShowable = true
  shell : ∀ v ∈ given.shell, v.IsShell
  echo : ∀ v ∈ given.echo, v.IsTruth
  logLevel : ∀ v ∈ given.logLevel, v.IsLevel

/-- Whether the first value that is wrong, in the order of the settings, breaks off. -/
inductive BreaksOff (given : Layer) : Prop
  | recipeFile (h : ∃ v ∈ given.recipeFile, v.isShowable = false)
  | shell (hfile : ∀ v ∈ given.recipeFile, v.isShowable = true)
      (h : ∃ v ∈ given.shell, v.BreaksShell)
  | echo (hfile : ∀ v ∈ given.recipeFile, v.isShowable = true)
      (hshell : ∀ v ∈ given.shell, v.IsShell)
      (h : ∃ v ∈ given.echo, ¬ v.IsTruth ∧ v.isShowable = false)
  | logLevel (hfile : ∀ v ∈ given.recipeFile, v.isShowable = true)
      (hshell : ∀ v ∈ given.shell, v.IsShell) (hecho : ∀ v ∈ given.echo, v.IsTruth)
      (h : ∃ v ∈ given.logLevel, v.isShowable = false)

/-- The check of a setting ends as the values given to it tell, if the default passes. -/
theorem checkGiven_ends {check : Value → Except SettingsFault α} {P Q : Value → Prop}
    (hcheck : ∀ v, CheckEnds (check v) (P v) (Q v)) {lower : Option Value}
    (hdefault : ∃ v ∈ lower, P v ∧ ¬ Q v) (given : Option Value) :
    CheckEnds (check ((given <|> lower).getD .null)) (∀ v ∈ given, P v) (∃ v ∈ given, Q v) := by
  obtain ⟨v, rfl, hpasses, hbreaks⟩ := hdefault
  cases given with
  | none => exact (hcheck v).congr (by simpa using hpasses) (by simpa using hbreaks)
  | some w => exact (hcheck w).congr (by simp) (by simp)

theorem shell_default : ∃ v ∈ defaults.shell, v.IsShell ∧ ¬ v.BreaksShell := by
  let words : List Wide := [.ofText "sh".toList, .ofText "-cu".toList]
  have hshell : (Value.list (words.map .text)).IsShell := Or.inl ⟨words, by simp [words], rfl⟩
  refine ⟨.list (words.map .text), rfl, hshell, ?_⟩
  rintro (⟨t, fault, heq, _⟩ | ⟨hno, _⟩)
  · cases heq
  · exact hno hshell

theorem echo_default :
    ∃ v ∈ defaults.echo, v.IsTruth ∧ ¬ (¬ v.IsTruth ∧ v.isShowable = false) :=
  ⟨_, rfl, Or.inl ⟨true, rfl⟩, fun hno => hno.1 (Or.inl ⟨true, rfl⟩)⟩

theorem logLevel_default : ∃ v ∈ defaults.logLevel, v.IsLevel ∧ ¬ v.isShowable = false :=
  ⟨_, rfl, ⟨rfl, "WARNING".toList, rfl, .warning, by decide⟩, by decide⟩

/-- The checks of a layer end as the first one does that does not pass. -/
theorem resolve_ends (given : Layer) : CheckEnds given.resolve given.IsValid given.BreaksOff := by
  -- alone of the four the recipe file has no default
  have hfile : (given.above defaults).recipeFile = given.recipeFile := by
    show (given.recipeFile <|> none) = _
    simp
  have hchain : CheckEnds given.resolve _ _ :=
    (checkRecipeFile_ends (given.above defaults).recipeFile).bind fun recipeFile _ =>
    (checkGiven_ends checkShell_ends shell_default given.shell).bind fun shell _ =>
    (checkGiven_ends checkEcho_ends echo_default given.echo).bind fun echo _ =>
    (checkGiven_ends checkLogLevel_ends logLevel_default given.logLevel).bind fun logLevel _ =>
    CheckEnds.ok (Settings.mk recipeFile shell echo logLevel)
  rw [hfile] at hchain
  refine hchain.congr ⟨?_, ?_⟩ ⟨?_, ?_⟩
  · rintro ⟨h1, h2, h3, h4, _⟩
    exact ⟨h1, h2, h3, h4⟩
  · rintro ⟨h1, h2, h3, h4⟩
    exact ⟨h1, h2, h3, h4, trivial⟩
  · rintro (h | ⟨h1, h | ⟨h2, h | ⟨h3, h | ⟨_, ⟨⟩⟩⟩⟩⟩)
    · exact .recipeFile h
    · exact .shell h1 h
    · exact .echo h1 h2 h
    · exact .logLevel h1 h2 h3 h
  · rintro (h | ⟨h1, h⟩ | ⟨h1, h2, h⟩ | ⟨h1, h2, h3, h⟩)
    · exact Or.inl h
    · exact Or.inr ⟨h1, Or.inl h⟩
    · exact Or.inr ⟨h1, Or.inr ⟨h2, Or.inl h⟩⟩
    · exact Or.inr ⟨h1, Or.inr ⟨h2, Or.inr ⟨h3, Or.inl h⟩⟩⟩

theorem shell_ne_nil_of_resolve {given : Layer} {s : Settings} (h : given.resolve = .ok s) :
    s.shell ≠ [] := by
  obtain ⟨recipeFile, _, h⟩ := bind_eq_ok_iff.mp h
  obtain ⟨shell, hshell, h⟩ := bind_eq_ok_iff.mp h
  obtain ⟨echo, _, h⟩ := bind_eq_ok_iff.mp h
  obtain ⟨logLevel, _, h⟩ := bind_eq_ok_iff.mp h
  cases h
  exact ne_nil_of_checkShell hshell

/-- **Settings are resolved, or refused with a reported fault, unless they break off.** They are
resolved, with a shell that names a command, exactly if every value is valid. They break off exactly
if the first value that is wrong is a text for the shell that ends between quotes or behind a
backslash, or is too long to be shown. Every other wrong value is reported. -/
theorem resolve_cases (given : Layer) :
    (given.IsValid ∧ ¬ given.BreaksOff ∧ ∃ s, given.resolve = .ok s ∧ s.shell ≠ []) ∨
    (¬ given.IsValid ∧ ¬ given.BreaksOff ∧
      ∃ fault, given.resolve = .error fault ∧ fault.exitCode? = some 2) ∨
    (¬ given.IsValid ∧ given.BreaksOff ∧
      ∃ fault, given.resolve = .error fault ∧ fault.exitCode? = none) := by
  cases given.resolve_ends with
  | passes h hvalid hbreaks =>
      exact Or.inl ⟨hvalid, hbreaks, _, h, shell_ne_nil_of_resolve h⟩
  | reported h hcode hvalid hbreaks => exact Or.inr (Or.inl ⟨hvalid, hbreaks, _, h, hcode⟩)
  | breaksOff h hcode hvalid hbreaks => exact Or.inr (Or.inr ⟨hvalid, hbreaks, _, h, hcode⟩)

/-- A quote that is not closed breaks off. -/
theorem resolve_open_quote :
    let given := ofEntries [(.ofText "shell".toList, .ofText ['\''])]
    (∀ s, given.resolve ≠ .ok s) ∧
    (∀ fault, given.resolve = .error fault → fault.exitCode? ≠ some 2) ∧
    given.resolve = .error (.badWords .openQuote) := by
  intro given
  have h : given.resolve = .error (.badWords .openQuote) := rfl
  refine ⟨fun s hs => ?_, fun fault hfault => ?_, h⟩
  · rw [h] at hs
    cases hs
  · rw [h] at hfault
    cases hfault
    decide

end Layer

end Runbook
