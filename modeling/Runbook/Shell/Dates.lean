import Runbook.Shell.Calendar
import Runbook.Shell.Files

set_option autoImplicit false

/-! # Utilities for dates

Showing the time, and setting when files have been changed.
-/

namespace Runbook.Shell

/-- When the entry was changed that a text names, if there is one. -/
def changed? (s : State) (t : Text) : Option Int :=
  match place? s t with
  | some (.entry names _) => some (s.system.timeOf names)
  | some _ => some s.system.stamp
  | none => none

/-- Marks files as changed now or at another moment, and makes those that are not there. -/
def touch : List Text → Action Nat :=
  let kinds : OptionKinds := ⟨"acfhm", "drt", [("no-create", 'c'), ("date", 'd'),
    ("reference", 'r'), ("no-dereference", 'h'), ("time", 'T')]⟩
  withOptions "touch" kinds 1 fun g => do
    let s ← get
    let now : Int := s.system.clock
    let badDate := fun (t : Text) => do
      complainAs "touch" ("invalid date format ".toList ++ quoted t)
      return 1
    let reference := (g.value? 'r').map fun t => (t, changed? s t)
    if let some (t, none) := reference then
      complainOf "touch" "failed to get attributes of " (quoted t) (absence s t)
      return 1
    let given := reference.bind (·.2)
    let stamp := (g.value? 't').map fun t => (t, Date.stamp? now t)
    if let some (t, none) := stamp then return ← badDate t
    let date := (g.value? 'd').map fun t => (t, Date.moment? (given.getD now) t)
    if let some (t, none) := date then return ← badDate t
    let moment := (date.bind (·.2)) <|> (stamp.bind (·.2)) <|> given
    if g.operands.isEmpty then return ← misused "touch" "missing file operand".toList 1
    let mark := fun (t : Text) => do
      let s ← get
      if let some (.entry names _) := place? s t then
        if !g.has 'a' || g.has 'm' then
          modifySystem (·.mark names (moment.getD s.system.stamp))
    eachOf g.operands 1 fun t => do
      let s ← get
      if (look? s t).isSome then
        mark t
        return true
      if g.has 'c' && !blocked s t then return true
      if t.getLast? == some '/' && (locate s t).isSome then
        complainOf "touch" "setting times of " (quoted t) (absence s t)
        return false
      match ← store t [] with
      | none =>
          mark t
          return true
      | some reason =>
          complainOf "touch" "cannot touch " (quoted t) reason
          return false

/-- The formats for dates as standards have them, by how exact they are. -/
def standardFormats : List (String × String × String) := [
  ("date", "%Y-%m-%d", "%Y-%m-%d"),
  ("hours", "%Y-%m-%dT%H%:z", ""),
  ("minutes", "%Y-%m-%dT%H:%M%:z", ""),
  ("seconds", "%Y-%m-%dT%H:%M:%S%:z", "%Y-%m-%d %H:%M:%S%:z"),
  ("ns", "%Y-%m-%dT%H:%M:%S,%N%:z", "%Y-%m-%d %H:%M:%S.%N%:z")]

/-- Shows the time, or another moment, in a format. -/
def showDate (words : List Text) : Action Nat := do
  let kinds : OptionKinds := ⟨"uR", "dfrsI", [("date", 'd'), ("file", 'f'), ("reference", 'r'),
    ("utc", 'u'), ("universal", 'u'), ("rfc-email", 'R'), ("set", 's'), ("iso-8601", 'I'),
    ("rfc-3339", '3')]⟩
  let kinds := { kinds with valued := kinds.valued ++ "3" }
  -- How exact the date is stands directly behind the option if it stands there at all.
  let spelt := words.map fun w =>
    if w == "-I".toList || w == "--iso-8601".toList then "-Idate".toList else w
  withOptions "date" kinds 1 (fun g => do
    let s ← get
    let now : Int := s.system.clock
    let cannot := fun (t : Text) => do
      complainAs "date" ("invalid date ".toList ++ quoted t)
      return 1
    let exactness := fun (c : Char) =>
      (g.value? c).map fun t => standardFormats.find? fun f => f.1.toList == t
    if let some none := exactness 'I' then
      return ← misused "date" ("invalid argument ".toList ++
        quoted ((g.value? 'I').getD []) ++ " for '--iso-8601'".toList) 1
    if let some none := exactness '3' then
      return ← misused "date" ("invalid argument ".toList ++
        quoted ((g.value? '3').getD []) ++ " for '--rfc-3339'".toList) 1
    let byOption := if g.has 'R' then some "%a, %d %b %Y %H:%M:%S %z"
      else ((exactness 'I').bind id).map (·.2.1) <|> ((exactness '3').bind id).map (·.2.2)
    let format ← match g.operands with
      | [] => pure (some ((byOption.getD "%a %b %e %H:%M:%S %Z %Y").toList))
      | ('+' :: t) :: _ => pure (some t)
      | _ => pure none
    match format, g.operands with
    | none, t :: _ => cannot t
    | none, [] => return 1
    | some format, operands =>
        if let some t := (operands.drop 1).head? then
          return ← misused "date" ("extra operand ".toList ++ quoted t) 1
        let moment ← match g.value? 'd', g.value? 'r' with
          | some t, _ =>
              match Date.moment? now t with
              | some m => pure (some m)
              | none =>
                  let _ ← cannot t
                  pure none
          | none, some t =>
              match changed? s t with
              | some m => pure (some m)
              | none =>
                  complainOf "date" "" (named t) (absence s t)
                  pure none
          | none, none => pure (some now)
        match moment with
        | none => return 1
        | some m =>
            writeLine ((Date.ofMoment m).formatted (format.length + 64) format)
            return 0) spelt

end Runbook.Shell
