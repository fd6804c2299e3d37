import Runbook.Proofs.Execution.Turn

set_option autoImplicit false

/-! # The handler of signals

While lines are executed, the signals that arrive are answered by a handler. It remembers the first of
them, and it passes a signal on to the process that it knows, if this process has not ended and the
signal is no interrupt. The execution tells the handler its process when it has been started, and makes
the handler forget it when it has been waited for. This file runs the lines with the state of the handler
in sight, as it is changed from one statement to the next; what happens is what happens in an execution.
-/

namespace Runbook

/-! ## The handler -/

/-- What the handler knows. -/
structure Handler where
  /-- The signal that was received first. -/
  received : Option Signal := none
  /-- The line of the process that signals are passed on to. -/
  child : Option Nat := none
  deriving DecidableEq, Repr

/-- An event, and the process that the handler knows when it happens: a signal that is passed on is
passed on to this process. -/
structure Noted where
  event : Event
  child : Option Nat
  deriving DecidableEq, Repr

namespace Handler

variable {h : Handler}

/-- An event as it happens. -/
def note (h : Handler) (e : Event) : Noted := ⟨e, h.child⟩

/-- The answer to a signal, `ended` saying whether the process that is known, if there is one, has
ended. -/
def answer (h : Handler) (ended : Bool) (signal : Signal) : List Noted :=
  h.note (.received signal) ::
    if h.child.isSome && signal.isRelayed && !ended then [h.note (.relayed signal)] else []

/-- The handler after a signal. -/
def remember (h : Handler) (signal : Signal) : Handler :=
  { h with received := h.received <|> some signal }

/-- The answers to signals. What is remembered does not matter to them. -/
def answers (h : Handler) (ended : Bool) (signals : List Signal) : List Noted :=
  signals.flatMap (h.answer ended)

/-- The handler after signals. -/
def after (h : Handler) (signals : List Signal) : Handler := signals.foldl remember h

/-- The handler that knows a process, or none. -/
def know (h : Handler) (child : Option Nat) : Handler := { h with child }

@[simp] theorem child_know (h : Handler) (child : Option Nat) : (h.know child).child = child := rfl

@[simp] theorem received_know (h : Handler) (child : Option Nat) :
    (h.know child).received = h.received := rfl

@[simp] theorem child_after (h : Handler) (signals : List Signal) :
    (h.after signals).child = h.child := by
  unfold after
  induction signals generalizing h with
  | nil => rfl
  | cons signal signals ih => exact ih (h.remember signal)

@[simp] theorem received_after (h : Handler) (signals : List Signal) :
    (h.after signals).received = (h.received <|> signals.head?) := by
  unfold after
  induction signals generalizing h with
  | nil =>
      show h.received = (h.received <|> none)
      cases h.received <;> rfl
  | cons signal signals ih =>
      rw [List.foldl_cons, ih]
      show ((h.received <|> some signal) <|> signals.head?) = (h.received <|> some signal)
      cases h.received <;> rfl

/-- Signals that are answered arrive at a running process if one is known that has not ended. -/
theorem map_event_answers (h : Handler) (ended : Bool) (signals : List Signal) :
    (h.answers ended signals).map Noted.event = arrivals (h.child.isSome && !ended) signals := by
  unfold answers arrivals
  rw [List.map_flatMap]
  refine List.flatMap_congr fun signal _ => ?_
  unfold answer
  cases h.child.isSome <;> cases ended <;> cases signal.isRelayed <;> rfl

end Handler

namespace Job

variable {job : Job} {s : Schedule} {h : Handler} {n : Nat} {text : Text} {words : List Text}

/-! ## Lines with the handler -/

/-- The announcement and the print of a line. -/
def openingWith (job : Job) (s : Schedule) (h : Handler) (n : Nat) (text : Text) : List Noted :=
  (if job.announce then h.note (.announced n text) :: h.answers false (s.announced n) else []) ++
    if job.echo || job.dryRun then [h.note (.echoed text)] else []

/-- An attempt to run a process, and the handler after it. The process is known from when it has been
started until it has been waited for. -/
def attemptWith (job : Job) (h : Handler) (n : Nat) (words : List Text) (child : Child) :
    List Noted × Handler :=
  let started := h.note (.started words job.environment job.directory) :: h.answers false child.early
  let h := h.after child.early
  match child.fate with
  | .notStarted _ => (started, h)
  | .refused _ => (started, h)
  | .ends status signals late =>
      let known := h.know (some n)
      (started ++ known.answers false signals ++ known.answers true late ++
        [known.note (.waited status)], (known.after (signals ++ late)).know none)

/-- How the attempt to run a process ends the execution, if it does. -/
def stopWith (job : Job) (h : Handler) (n : Nat) (fate : Fate) : Option Stop :=
  match fate, h.received with
  | .notStarted reason, _ =>
      match job.shell with
      | [] => some .noCommand
      | command :: _ => some (.fault (.notStarted job.recipe n command reason))
  | .refused refusal, _ => some (.refused refusal)
  | .ends _ _ _, some signal => some (.fault (.killed job.recipe n signal.number))
  | .ends status _ _, none =>
      if status < 0 then some (.fault (.killed job.recipe n (-status)))
      else if status = 0 then none
      else some (.fault (.exited job.recipe n status))

/-- Runs lines, the first of which has number `n`, with a handler. -/
def runWith (job : Job) (s : Schedule) : Nat → Handler → List Text → List Noted × Option Stop
  | _, _, [] => ([], none)
  | n, h, text :: more =>
      match h.received with
      | some signal => ([], some (.fault (.killed job.recipe n signal.number)))
      | none =>
          let opening := job.openingWith s h n text
          let h := h.after (job.heard s n)
          if job.dryRun then
            let (later, stop) := job.runWith s (n + 1) h more
            (opening ++ later, stop)
          else
            match argv text job.shell job.recipe job.positional with
            | none => (opening, some .noCommand)
            | some words =>
                let (attempt, h) := job.attemptWith h n words (s.child n)
                match job.stopWith h n (s.child n).fate with
                | some stop => (opening ++ attempt, some stop)
                | none =>
                    let (later, stop) := job.runWith s (n + 1) h more
                    (opening ++ attempt ++ later, stop)

/-- The execution with a handler that knows nothing at first. -/
def handled (job : Job) (s : Schedule) : List Noted × Option Stop := job.runWith s 1 {} job.lines

/-! ## What happens without the handler in sight -/

theorem map_event_openingWith (hchild : h.child = none) :
    (job.openingWith s h n text).map Noted.event = job.opening (job.heard s n) n text := by
  have hidle : (h.answers false (s.announced n)).map Noted.event = arrivals false (s.announced n) := by
    rw [h.map_event_answers, hchild]
    rfl
  unfold openingWith opening heard
  rw [List.map_append]
  congr 1
  · cases job.announce with
    | true =>
        rw [if_pos rfl, if_pos rfl, if_pos rfl, List.map_cons, hidle]
        rfl
    | false => rfl
  · split <;> rfl

theorem map_event_attemptWith (hchild : h.child = none) (child : Child) :
    (job.attemptWith h n words child).1.map Noted.event = job.attempt words child := by
  have hidle : (h.answers false child.early).map Noted.event = arrivals false child.early := by
    rw [h.map_event_answers, hchild]
    rfl
  unfold attemptWith attempt
  cases child.fate with
  | notStarted reason =>
      dsimp only
      rw [List.map_cons, hidle, List.append_nil]
      rfl
  | refused refusal =>
      dsimp only
      rw [List.map_cons, hidle, List.append_nil]
      rfl
  | ends status signals late =>
      dsimp only
      simp only [List.map_append, List.map_cons, List.map_nil, Handler.map_event_answers, hidle,
        List.append_assoc]
      rfl

/-- After an attempt the handler knows no process. -/
theorem child_attemptWith (hchild : h.child = none) (child : Child) :
    (job.attemptWith h n words child).2.child = none := by
  unfold attemptWith
  cases child.fate with
  | notStarted reason => simpa using hchild
  | refused refusal => simpa using hchild
  | ends status signals late => rfl

/-- What the handler remembers after a turn is the first signal of the turn. -/
theorem received_turnWith (hreceived : h.received = none) (announced : List Signal) (child : Child) :
    (job.attemptWith (h.after announced) n words child).2.received = firstHeard announced child := by
  unfold attemptWith
  rw [firstHeard_eq]
  cases hfate : child.fate with
  | notStarted reason =>
      simp only [Handler.received_after, hreceived, Fate.signals]
      cases announced <;> cases child.early <;> rfl
  | refused refusal =>
      simp only [Handler.received_after, hreceived, Fate.signals]
      cases announced <;> cases child.early <;> rfl
  | ends status signals late =>
      simp only [Handler.received_know, Handler.received_after, hreceived, Fate.signals]
      cases announced <;> cases child.early <;> rfl

theorem stopWith_eq {announced : List Signal} {child : Child}
    (hfirst : h.received = firstHeard announced child) :
    job.stopWith h n child.fate = job.stop? announced child n := by
  unfold stopWith stop?
  generalize firstHeard announced child = first at hfirst ⊢
  subst hfirst
  cases child.fate with
  | notStarted reason => cases job.shell <;> rfl
  | refused refusal => rfl
  | ends status signals late => cases h.received <;> rfl

/-- **Lines that are run with the handler in sight are run as they are without it.** -/
theorem runWith_eq (hchild : h.child = none) (hn : 1 ≤ n) (children : List Child)
    (hchildren : job.dryRun = false → children = s.children.drop (n - 1)) (ls : List Text) :
    ((job.runWith s n h ls).1.map Noted.event, (job.runWith s n h ls).2) =
      job.runFrom s.announced n h.received children ls := by
  -- Along the lines; at the top of each turn the handler knows no process.
  induction ls generalizing n h children with
  | nil => cases h.received <;> rfl
  | cons text more ih =>
      unfold runWith runFrom
      cases hreceived : h.received with
      | some signal => rfl
      | none =>
          have hopening : (job.openingWith s h n text).map Noted.event =
              job.opening (job.heard s n) n text := map_event_openingWith hchild
          have hidle : (h.after (job.heard s n)).child = none := by simpa using hchild
          dsimp only
          rw [← heard]
          cases hdry : job.dryRun with
          | true =>
              have hlater := ih (n := n + 1) hidle (by omega) children
                fun hno => by simp [hdry] at hno
              rw [Handler.received_after, hreceived] at hlater
              rw [if_pos rfl, if_pos rfl, List.map_append, hopening]
              exact congrArg (fun later => (_ ++ later.1, later.2)) hlater
          | false =>
              rw [if_neg Bool.false_ne_true, if_neg Bool.false_ne_true, hchildren hdry,
                head?_children]
              cases hargv : argv text job.shell job.recipe job.positional with
              | none => exact congrArg (·, some Stop.noCommand) hopening
              | some words =>
                  let attempt := job.attemptWith (h.after (job.heard s n)) n words (s.child n)
                  have hattempt : attempt.1.map Noted.event = job.attempt words (s.child n) :=
                    map_event_attemptWith hidle (s.child n)
                  have hfirst : attempt.2.received = firstHeard (job.heard s n) (s.child n) :=
                    received_turnWith hreceived (job.heard s n) (s.child n)
                  dsimp only
                  rw [stopWith_eq hfirst]
                  cases hstop : job.stop? (job.heard s n) (s.child n) n with
                  | some stop =>
                      dsimp only
                      rw [List.map_append, hopening, hattempt]
                  | none =>
                      have hafter : attempt.2.child = none := child_attemptWith hidle (s.child n)
                      have hnone : firstHeard (job.heard s n) (s.child n) = none := by
                        rw [firstHeard_eq, ← received, (stop?_eq_none_iff.mp hstop).2]
                        rfl
                      have hlater := ih (n := n + 1) hafter (by omega)
                        ((s.children.drop (n - 1)).drop 1) fun _ => by
                          rw [List.drop_drop]
                          congr 1
                          omega
                      rw [hfirst, hnone] at hlater
                      dsimp only
                      rw [← hlater, List.map_append, List.map_append, hopening, hattempt]

theorem handled_eq_execute (job : Job) (s : Schedule) :
    ((job.handled s).1.map Noted.event, (job.handled s).2) = job.execute s :=
  runWith_eq rfl (Nat.le_refl 1) s.children (fun _ => rfl) job.lines

end Job

end Runbook
