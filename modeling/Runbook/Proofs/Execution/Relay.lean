import Runbook.Proofs.Execution.Handler
import Runbook.Proofs.Execution.Start

set_option autoImplicit false

/-! # Signals that are passed on

A signal is passed on at once when it is received, to the process that the handler knows. This is the
process that was started last, it has neither ended nor been waited for, and the signal asks it to end.
So no process is sent a signal that arrives before it is known, after it has ended, or in the turn of a
later line, and a dry run, which starts no process, passes nothing on.
-/

namespace Runbook

variable {s : Schedule} {before after earlier events more : List Noted} {signal : Signal} {i n : Nat}

/-! ## Splitting events -/

/-- An element of two lists in a row stands in the first or in the second. -/
theorem split_append {α : Type} {xs ys before after : List α} {e : α}
    (h : xs ++ ys = before ++ e :: after) :
    (∃ rest, xs = before ++ e :: rest ∧ after = rest ++ ys) ∨
      ∃ between, before = xs ++ between ∧ ys = between ++ e :: after := by
  rcases List.append_eq_append_iff.mp h with ⟨between, hbefore, hys⟩ | ⟨rest, hxs, hrest⟩
  · exact Or.inr ⟨between, hbefore, hys⟩
  · cases rest with
    | nil => exact Or.inr ⟨[], by simpa using hxs.symm, by simpa using hrest.symm⟩
    | cons first rest =>
        obtain ⟨rfl, rfl⟩ := List.cons.inj hrest
        exact Or.inl ⟨rest, hxs, rfl⟩

/-! ## What stands around a signal that is passed on -/

/-- The number of attempts to start a process. -/
def startCount (events : List Noted) : Nat := events.countP fun e => e.event.isStart

/-- The signals that are received. -/
def receivedIn (events : List Noted) : List Signal := events.filterMap fun e => e.event.signal?

theorem startCount_append (events more : List Noted) :
    startCount (events ++ more) = startCount events + startCount more := List.countP_append

theorem startCount_eq_zero (hnone : ∀ e ∈ events, e.event.isStart = false) : startCount events = 0 :=
  List.countP_eq_zero.mpr fun e he => by simp [hnone e he]

theorem receivedIn_append (events more : List Noted) :
    receivedIn (events ++ more) = receivedIn events ++ receivedIn more := List.filterMap_append

theorem Signal.asks_to_end (h : signal.isRelayed = true) :
    signal = .terminate ∨ signal = .hangup := by
  cases signal with
  | hangup => exact Or.inr rfl
  | interrupt => cases h
  | terminate => exact Or.inl rfl

/-- A signal is passed on to process `i` with good reason, `before` and `after` being what happens before
and after it. -/
structure Warranted (s : Schedule) (before : List Noted) (signal : Signal) (i : Nat)
    (after : List Noted) : Prop where
  /-- It has just been received, by a handler that knows the process. -/
  at_once : before.getLast? = some ⟨.received signal, some i⟩
  asks_to_end : signal = .terminate ∨ signal = .hangup
  /-- The process was started last, and since then there have been signals only. It has not ended: this
  signal is one of those that arrive while it runs. -/
  running : ∃ earlier start since, before = earlier ++ start :: since ∧
    start.event.isStart = true ∧ startCount earlier + 1 = i ∧
    (∀ e ∈ since, e.event.isSignal = true) ∧
    ∃ status arrived rest late, (s.child i).fate = .ends status (arrived ++ signal :: rest) late ∧
      receivedIn since = (s.child i).early ++ arrived ++ [signal]
  /-- It is waited for before anything else happens but signals. -/
  waited : ∃ since status later, after = since ++ ⟨.waited status, some i⟩ :: later ∧
    ∀ e ∈ since, e.event.isSignal = true

/-- Whether all signals that are passed on in events, which come after earlier ones, are passed on with
good reason. -/
def AllWarranted (s : Schedule) (earlier events : List Noted) : Prop :=
  ∀ before signal child after, events = before ++ ⟨.relayed signal, child⟩ :: after →
    ∃ i, child = some i ∧ Warranted s (earlier ++ before) signal i after

/-- What happens later does not matter. -/
theorem Warranted.append (h : Warranted s before signal i after) (more : List Noted) :
    Warranted s before signal i (after ++ more) := by
  obtain ⟨since, status, later, rfl, hsince⟩ := h.waited
  refine { h with waited := ⟨since, status, later ++ more, ?_, hsince⟩ }
  rw [List.append_assoc, List.cons_append]

theorem AllWarranted.append (h : AllWarranted s earlier events)
    (hmore : AllWarranted s (earlier ++ events) more) : AllWarranted s earlier (events ++ more) := by
  intro before signal child after heq
  rcases split_append heq with ⟨rest, hevents, rfl⟩ | ⟨between, rfl, hsplit⟩
  · obtain ⟨i, hi, hwarranted⟩ := h before signal child rest hevents
    exact ⟨i, hi, hwarranted.append more⟩
  · obtain ⟨i, hi, hwarranted⟩ := hmore between signal child after hsplit
    rw [List.append_assoc] at hwarranted
    exact ⟨i, hi, hwarranted⟩

/-- Where nothing is passed on there is nothing to show. -/
theorem allWarranted_of_forall (h : ∀ e ∈ events, ∀ signal, e.event ≠ .relayed signal) :
    AllWarranted s earlier events := by
  rintro before signal child after rfl
  exact absurd rfl (h ⟨.relayed signal, child⟩ (by simp) signal)

theorem isStart_of_isSignal {e : Event} (h : e.isSignal = true) : e.isStart = false := by
  cases e with
  | received signal => rfl
  | relayed signal => rfl
  | announced => cases h
  | echoed => cases h
  | started => cases h
  | waited => cases h

/-! ## Answers -/

namespace Handler

variable {h : Handler} {ended : Bool} {signals : List Signal}

theorem answers_cons (h : Handler) (ended : Bool) (signal : Signal) (signals : List Signal) :
    h.answers ended (signal :: signals) = h.answer ended signal ++ h.answers ended signals := rfl

theorem isSignal_of_mem_answers {e : Noted} (he : e ∈ h.answers ended signals) :
    e.event.isSignal = true := by
  have hmem : e.event ∈ (h.answers ended signals).map Noted.event := List.mem_map_of_mem he
  rw [map_event_answers] at hmem
  obtain ⟨signal, _, heq | heq⟩ := exists_signal_of_mem_arrivals hmem
  · rw [heq]
    rfl
  · rw [heq]
    rfl

theorem receivedIn_answers (h : Handler) (ended : Bool) (signals : List Signal) :
    receivedIn (h.answers ended signals) = signals := by
  induction signals with
  | nil => rfl
  | cons signal signals ih =>
      have hanswer : receivedIn (h.answer ended signal) = [signal] := by
        unfold answer
        split <;> rfl
      rw [answers_cons, receivedIn_append, hanswer, ih]
      rfl

/-- A signal is passed on as the answer to one that arrives, at once, and only if a process is known that
has not ended, and the signal is no interrupt. -/
theorem exists_of_answers {child : Option Nat}
    (heq : h.answers ended signals = before ++ ⟨.relayed signal, child⟩ :: after) :
    child = h.child ∧ h.child.isSome = true ∧ signal.isRelayed = true ∧ ended = false ∧
    ∃ arrived rest, signals = arrived ++ signal :: rest ∧
      before = h.answers ended arrived ++ [h.note (.received signal)] ∧
      after = h.answers ended rest := by
  induction signals generalizing before with
  | nil => cases before <;> cases heq
  | cons first signals ih =>
      rw [answers_cons] at heq
      rcases split_append heq with ⟨rest, hanswer, rfl⟩ | ⟨between, rfl, hmore⟩
      · unfold answer at hanswer
        split at hanswer
        · next hpasses =>
            -- the answer has two events, the second of which is meant
            simp only [Bool.and_eq_true, Bool.not_eq_true'] at hpasses
            cases before with
            | nil => cases hanswer
            | cons e before =>
                cases before with
                | nil =>
                    cases hanswer
                    exact ⟨rfl, hpasses.1.1, hpasses.1.2, hpasses.2, [], signals, rfl, rfl, rfl⟩
                | cons e' before => cases before <;> cases hanswer
        · cases before with
          | nil => cases hanswer
          | cons e before => cases before <;> cases hanswer
      · obtain ⟨hchild, hknown, hrelayed, hended, arrived, rest, rfl, rfl, rfl⟩ := ih hmore
        refine ⟨hchild, hknown, hrelayed, hended, first :: arrived, rest, rfl, ?_, rfl⟩
        rw [answers_cons, List.append_assoc]

/-- A handler that knows no process, or one that has ended, passes nothing on. -/
theorem ne_relayed_of_mem_answers (hquiet : h.child = none ∨ ended = true) :
    ∀ e ∈ h.answers ended signals, ∀ signal, e.event ≠ .relayed signal := by
  rintro ⟨event, child⟩ he signal rfl
  obtain ⟨before, after, heq⟩ := List.append_of_mem he
  obtain ⟨_, hknown, _, hrunning, _⟩ := exists_of_answers heq
  rcases hquiet with hnone | hended
  · rw [hnone] at hknown
    cases hknown
  · rw [hended] at hrunning
    cases hrunning

end Handler

namespace Job

variable {job : Job} {h : Handler} {text : Text} {words : List Text}

/-! ## Turns -/

/-- An opening is the announcement, signals that are answered without a process, and the print. -/
theorem eq_of_mem_openingWith (hchild : h.child = none) :
    ∀ e ∈ job.openingWith s h n text,
      e.event.isStart = false ∧ ∀ signal, e.event ≠ .relayed signal := by
  intro e he
  have hmem : e.event ∈ (job.openingWith s h n text).map Noted.event := List.mem_map_of_mem he
  rw [map_event_openingWith hchild] at hmem
  rcases eq_of_mem_opening hmem with heq | ⟨signal, _, heq⟩ | heq
  · rw [heq]
    exact ⟨rfl, fun _ => Event.noConfusion⟩
  · rw [heq]
    exact ⟨rfl, fun _ => Event.noConfusion⟩
  · rw [heq]
    exact ⟨rfl, fun _ => Event.noConfusion⟩

/-! ## Waiting -/

section Waiting

variable {start : Noted} {early : List Noted} {known : Handler} {status : Int}
  {signals late : List Signal}

/-- A signal that arrives while a process runs is passed on to it with good reason: `arrived` are the
signals that have arrived before, `rest` those that still will. -/
theorem warranted_wait {arrived rest : List Signal} (hstart : start.event.isStart = true)
    (hcount : startCount earlier + 1 = n) (hknown : known.child = some n)
    (hfate : (s.child n).fate = .ends status (arrived ++ signal :: rest) late)
    (hearly : ∀ e ∈ early, e.event.isSignal = true)
    (hreceived : receivedIn early = (s.child n).early) (hrelayed : signal.isRelayed = true) :
    Warranted s (earlier ++ start :: (early ++ (known.answers false arrived ++
        [known.note (.received signal)]))) signal n
      (known.answers false rest ++ (known.answers true late ++ [known.note (.waited status)])) where
  at_once := by
    rw [Handler.note, hknown, ← List.cons_append, ← List.append_assoc, ← List.append_assoc]
    exact List.getLast?_concat
  asks_to_end := Signal.asks_to_end hrelayed
  running := by
    refine ⟨earlier, start, _, rfl, hstart, hcount, fun e he => ?_, status, arrived, rest, late, hfate,
      ?_⟩
    · rcases List.mem_append.mp he with he | he
      · exact hearly e he
      · rcases List.mem_append.mp he with he | he
        · exact Handler.isSignal_of_mem_answers he
        · rw [List.mem_singleton.mp he]
          rfl
    · rw [receivedIn_append, receivedIn_append, hreceived, Handler.receivedIn_answers,
        List.append_assoc]
      rfl
  waited := by
    refine ⟨known.answers false rest ++ known.answers true late, status, [], ?_, fun e he => ?_⟩
    · rw [Handler.note, hknown, List.append_assoc]
    · rcases List.mem_append.mp he with he | he
      · exact Handler.isSignal_of_mem_answers he
      · exact Handler.isSignal_of_mem_answers he

/-- While a process is waited for, signals are passed on to it with good reason. -/
theorem allWarranted_wait (hstart : start.event.isStart = true)
    (hcount : startCount earlier + 1 = n) (hknown : known.child = some n)
    (hfate : (s.child n).fate = .ends status signals late)
    (hearly : ∀ e ∈ early, e.event.isSignal = true)
    (hreceived : receivedIn early = (s.child n).early) :
    AllWarranted s (earlier ++ start :: early) (known.answers false signals ++
      (known.answers true late ++ [known.note (.waited status)])) := by
  intro before signal child after heq
  rcases split_append heq with ⟨rest, hanswers, rfl⟩ | ⟨between, rfl, hbehind⟩
  · obtain ⟨rfl, _, hrelayed, _, arrived, behind, rfl, rfl, rfl⟩ :=
      Handler.exists_of_answers hanswers
    refine ⟨n, hknown, ?_⟩
    rw [List.append_assoc, List.cons_append]
    exact warranted_wait hstart hcount hknown hfate hearly hreceived hrelayed
  · -- when the process has ended nothing is passed on
    have hmem : (⟨.relayed signal, child⟩ : Noted) ∈
        known.answers true late ++ [known.note (.waited status)] := by simp [hbehind]
    rcases List.mem_append.mp hmem with hmem | hmem
    · exact absurd rfl (Handler.ne_relayed_of_mem_answers (Or.inr rfl) _ hmem signal)
    · cases List.mem_singleton.mp hmem

end Waiting

/-! ## Attempts -/

/-- An attempt passes signals on with good reason, to its own process. -/
theorem allWarranted_attemptWith (hchild : h.child = none) (hcount : startCount earlier + 1 = n) :
    AllWarranted s earlier (job.attemptWith h n words (s.child n)).1 := by
  have hquiet : ∀ e ∈ h.note (.started words job.environment job.directory) ::
      h.answers false (s.child n).early, ∀ signal, e.event ≠ .relayed signal := by
    intro e he
    rcases List.mem_cons.mp he with rfl | he
    · exact fun _ => Event.noConfusion
    · exact Handler.ne_relayed_of_mem_answers (Or.inl hchild) e he
  unfold attemptWith
  cases hfate : (s.child n).fate with
  | notStarted reason => exact allWarranted_of_forall hquiet
  | refused refusal => exact allWarranted_of_forall hquiet
  | ends status signals late =>
      dsimp only
      rw [List.append_assoc, List.append_assoc]
      refine (allWarranted_of_forall hquiet).append ?_
      exact allWarranted_wait rfl hcount (Handler.child_know _ _) hfate
        (fun e he => Handler.isSignal_of_mem_answers he) (Handler.receivedIn_answers h false _)

/-- An attempt starts one process. -/
theorem startCount_attemptWith (child : Child) :
    startCount (job.attemptWith h n words child).1 = 1 := by
  have hanswers : ∀ (h : Handler) (ended : Bool) (signals : List Signal),
      startCount (h.answers ended signals) = 0 := fun h ended signals =>
    startCount_eq_zero fun e he => isStart_of_isSignal (Handler.isSignal_of_mem_answers he)
  have hstarted : startCount (h.note (.started words job.environment job.directory) ::
      h.answers false child.early) = 1 := by
    rw [startCount, List.countP_cons_of_pos rfl, ← startCount, hanswers]
  unfold attemptWith
  cases child.fate with
  | notStarted reason => exact hstarted
  | refused refusal => exact hstarted
  | ends status signals late =>
      dsimp only
      rw [startCount_append, startCount_append, startCount_append, hstarted, hanswers, hanswers]
      rfl

/-! ## Runs -/

/-- **Whatever is passed on in a run is passed on with good reason**, if at its beginning the handler
knows no process, and as many have been started as there were lines. -/
theorem allWarranted_runWith (hchild : h.child = none)
    (hcount : job.dryRun = false → startCount earlier + 1 = n) (ls : List Text) :
    AllWarranted s earlier (job.runWith s n h ls).1 := by
  -- Along the lines; every turn that is not the last leaves the handler without a process.
  induction ls generalizing n h earlier with
  | nil => exact allWarranted_of_forall fun e he => by cases he
  | cons text more ih =>
      unfold runWith
      cases h.received with
      | some signal => exact allWarranted_of_forall fun e he => by cases he
      | none =>
          have hidle : (h.after (job.heard s n)).child = none := by simpa using hchild
          have hmem : ∀ e ∈ job.openingWith s h n text, e.event.isStart = false ∧
              ∀ signal, e.event ≠ .relayed signal := eq_of_mem_openingWith hchild
          have hopening : AllWarranted s earlier (job.openingWith s h n text) :=
            allWarranted_of_forall fun e he => (hmem e he).2
          have hnone : startCount (job.openingWith s h n text) = 0 :=
            startCount_eq_zero fun e he => (hmem e he).1
          dsimp only
          cases hdry : job.dryRun with
          | true =>
              rw [if_pos rfl]
              exact hopening.append (ih hidle fun hno => by simp [hdry] at hno)
          | false =>
              rw [if_neg Bool.false_ne_true]
              cases argv text job.shell job.recipe job.positional with
              | none => exact hopening
              | some words =>
                  have hbefore : startCount (earlier ++ job.openingWith s h n text) + 1 = n := by
                    rw [startCount_append, hnone]
                    exact hcount hdry
                  have hattempt : AllWarranted s (earlier ++ job.openingWith s h n text)
                      (job.attemptWith (h.after (job.heard s n)) n words (s.child n)).1 :=
                    allWarranted_attemptWith hidle hbefore
                  dsimp only
                  split
                  · exact hopening.append hattempt
                  · refine (hopening.append hattempt).append (ih (child_attemptWith hidle _) ?_)
                    intro _
                    rw [← List.append_assoc, startCount_append, startCount_attemptWith]
                    omega

theorem allWarranted_handled (job : Job) (s : Schedule) : AllWarranted s [] (job.handled s).1 :=
  allWarranted_runWith rfl (fun _ => rfl) job.lines

/-! ## Executions -/

/-- A signal that is passed on in an execution, with the handler in sight. -/
theorem exists_warranted {before after : List Event}
    (heq : (job.execute s).1 = before ++ .relayed signal :: after) :
    ∃ notedBefore i notedAfter,
      (job.handled s).1 = notedBefore ++ ⟨.relayed signal, some i⟩ :: notedAfter ∧
      notedBefore.map Noted.event = before ∧ notedAfter.map Noted.event = after ∧
      Warranted s notedBefore signal i notedAfter := by
  have hevents : (job.handled s).1.map Noted.event = before ++ .relayed signal :: after := by
    rw [← heq, ← handled_eq_execute]
  obtain ⟨notedBefore, rest, hnoted, hbefore, hrest⟩ := List.map_eq_append_iff.mp hevents
  obtain ⟨⟨event, child⟩, notedAfter, rfl, rfl, hafter⟩ := List.map_eq_cons_iff.mp hrest
  obtain ⟨i, rfl, hwarranted⟩ := allWarranted_handled job s _ _ _ _ hnoted
  exact ⟨notedBefore, i, notedAfter, hnoted, hbefore, hafter, hwarranted⟩

/-- Between anything but a signal and a signal that is passed on, a process is started. -/
theorem exists_start_of_relayed {before between after : List Event} {e : Event}
    (heq : (job.execute s).1 = before ++ e :: (between ++ .relayed signal :: after))
    (hsignal : e.isSignal = false) (hstart : e.isStart = false) :
    ∃ start ∈ between, start.isStart = true := by
  have hrelayed : (job.execute s).1 = (before ++ e :: between) ++ .relayed signal :: after := by
    rw [heq, List.append_assoc, List.cons_append]
  obtain ⟨notedBefore, i, _, _, hbefore, _, hwarranted⟩ := exists_warranted hrelayed
  obtain ⟨earlier, start, since, rfl, hisStart, _, hsince, _⟩ := hwarranted.running
  rw [List.map_append, List.map_cons] at hbefore
  rcases split_append hbefore with ⟨rest, _, rfl⟩ | ⟨passed, _, hsplit⟩
  · exact ⟨start.event, by simp, hisStart⟩
  · -- behind the start there are signals only
    cases passed with
    | nil =>
        obtain ⟨rfl, _⟩ := List.cons.inj hsplit
        rw [hisStart] at hstart
        cases hstart
    | cons first passed =>
        obtain ⟨_, hbehind⟩ := List.cons.inj hsplit
        have hmem : e ∈ since.map Noted.event := by simp [hbehind]
        obtain ⟨noted, hnoted, rfl⟩ := List.mem_map.mp hmem
        rw [hsince noted hnoted] at hsignal
        cases hsignal

/-- **Signals are passed on to the running process only.** The handler in sight, an execution is what it
is without. Each signal that is passed on has been received just before, asks the process to end, and is
passed on to the process that was started last and has neither ended nor been waited for; between two
signals that are passed on another one is received, so that none is passed on twice. After a wait or
the announcement of a line nothing is passed on until a process is started, and in a dry run nothing is
passed on at all. -/
theorem execute_relays (job : Job) (s : Schedule) :
    ((job.handled s).1.map Noted.event, (job.handled s).2) = job.execute s ∧
    (∀ before signal after, (job.execute s).1 = before ++ .relayed signal :: after →
      ∃ notedBefore i notedAfter,
        (job.handled s).1 = notedBefore ++ ⟨.relayed signal, some i⟩ :: notedAfter ∧
        notedBefore.map Noted.event = before ∧ notedAfter.map Noted.event = after ∧
        Warranted s notedBefore signal i notedAfter) ∧
    (∀ before first between second after,
      (job.execute s).1 = before ++ .relayed first :: (between ++ .relayed second :: after) →
      between.getLast? = some (.received second)) ∧
    (∀ before e between signal after,
      (job.execute s).1 = before ++ e :: (between ++ .relayed signal :: after) →
      e.isSignal = false → e.isStart = false → ∃ start ∈ between, start.isStart = true) ∧
    (job.dryRun = true → ∀ signal, .relayed signal ∉ (job.execute s).1) := by
  refine ⟨handled_eq_execute job s, fun before signal after heq => exists_warranted heq, ?_,
    fun before e between signal after heq hsignal hstart =>
      exists_start_of_relayed heq hsignal hstart, ?_⟩
  · intro before first between second after heq
    rw [← List.cons_append, ← List.append_assoc] at heq
    obtain ⟨notedBefore, i, _, _, hbefore, _, hwarranted⟩ := exists_warranted heq
    have hlast : (before ++ .relayed first :: between).getLast? = some (.received second) := by
      rw [← hbefore, List.getLast?_map, hwarranted.at_once]
      rfl
    cases between with
    | nil =>
        rw [List.getLast?_concat] at hlast
        cases hlast
    | cons e between =>
        rwa [List.getLast?_append_of_ne_nil _ (List.cons_ne_nil _ _), List.getLast?_cons_cons] at hlast
  · intro hdry signal hmem
    obtain ⟨before, after, heq⟩ := List.append_of_mem hmem
    obtain ⟨notedBefore, i, _, _, rfl, _, hwarranted⟩ := exists_warranted heq
    obtain ⟨earlier, start, since, rfl, hstart, _⟩ := hwarranted.running
    have hmem : start.event ∈ (job.execute s).1 := by
      rw [heq]
      simp
    have hnone : start.event.isStart = false := isStart_of_mem_dryRun hdry start.event hmem
    rw [hstart] at hnone
    cases hnone

/-- The theorem at the second line of a job, whose process is told to end while it runs: as soon as it
has been started a hangup arrives, then it is interrupted and terminated, and when it has ended it is
terminated again. -/
theorem execute_relays_second_line :
    let job : Job := { lines := [['a'], ['b']], shell := [['s', 'h']], echo := false }
    let s : Schedule := { children := [{}, {
      early := [.hangup], fate := .ends (-15) [.interrupt, .terminate] [.terminate] }] }
    let before : List Event := [.announced 1 ['a'], .started [['s', 'h'], ['a']] none none, .waited 0,
      .announced 2 ['b'], .started [['s', 'h'], ['b']] none none, .received .hangup,
      .received .interrupt, .received .terminate]
    let after : List Event := [.received .terminate, .waited (-15)]
    (job.execute s).1 = before ++ .relayed .terminate :: after ∧
    ∃ notedBefore notedAfter,
      (job.handled s).1 = notedBefore ++ ⟨.relayed .terminate, some 2⟩ :: notedAfter ∧
      notedBefore.map Noted.event = before ∧ notedAfter.map Noted.event = after ∧
      Warranted s notedBefore .terminate 2 notedAfter := by
  intro job s before after
  have hevents : (job.execute s).1 = before ++ .relayed .terminate :: after := rfl
  obtain ⟨notedBefore, i, notedAfter, hnoted, hbefore, hafter, hwarranted⟩ :=
    (execute_relays job s).2.1 before .terminate after hevents
  obtain rfl : i = 2 := by
    have hlength : notedBefore.length = before.length := by rw [← hbefore, List.length_map]
    have hget : (job.handled s).1[before.length]? = some ⟨.relayed .terminate, some 2⟩ := rfl
    rw [hnoted, ← hlength, List.getElem?_append_right (Nat.le_refl _), Nat.sub_self] at hget
    simpa using hget
  exact ⟨hevents, notedBefore, notedAfter, hnoted, hbefore, hafter, hwarranted⟩

end Job

end Runbook
