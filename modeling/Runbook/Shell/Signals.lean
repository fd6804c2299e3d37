import Runbook.Shell.Printing

set_option autoImplicit false

/-! # Signals

The names of signals, their numbers, and what is said of a process that one of them has ended.
-/

namespace Runbook.Shell

/-- The names of the signals, by their numbers; the end of the shell has number zero. -/
def signalNames : List String :=
  ["EXIT", "HUP", "INT", "QUIT", "ILL", "TRAP", "ABRT", "BUS", "FPE", "KILL", "USR1", "SEGV",
    "USR2", "PIPE", "ALRM", "TERM", "16", "CHLD", "CONT", "STOP", "TSTP", "TTIN", "TTOU", "URG",
    "XCPU", "XFSZ", "VTALRM", "PROF", "WINCH", "IO", "PWR", "SYS", "32", "33", "RTMIN"] ++
    (List.range 15).map (fun n => "RTMIN+" ++ toString (n + 1)) ++
    (List.range 14).map (fun n => "RTMAX-" ++ toString (14 - n)) ++ ["RTMAX"]

/-- The name of a signal. -/
def signalName (n : Nat) : Text := ((signalNames[n]?).getD "").toList

/-- What is said of a process that a signal has ended. -/
def signalText (n : Nat) : String :=
  match n with
  | 1 => "Hangup"
  | 2 => "Interrupt"
  | 3 => "Quit"
  | 4 => "Illegal instruction"
  | 5 => "Trace/breakpoint trap"
  | 6 => "Aborted"
  | 7 => "Bus error"
  | 8 => "Floating point exception"
  | 9 => "Killed"
  | 10 => "User defined signal 1"
  | 11 => "Segmentation fault"
  | 12 => "User defined signal 2"
  | 13 => "Broken pipe"
  | 14 => "Alarm clock"
  | 15 => "Terminated"
  | 16 => "Stack fault"
  | 24 => "CPU time limit exceeded"
  | 25 => "File size limit exceeded"
  | 26 => "Virtual timer expired"
  | 27 => "Profiling timer expired"
  | 29 => "I/O possible"
  | 30 => "Power failure"
  | 31 => "Bad system call"
  | n => "Real-time signal " ++ toString (n - 34)

/-- The number of a signal that is given as a number. -/
def signalNumber? (t : Text) : Option Nat :=
  if !t.isEmpty && t.all Char.isDigit && inBase 10 t < 65 then some (inBase 10 t) else none

/-- The number of a signal that is given by number or by name, in upper or lower case; not below
`least`. -/
def signal? (least : Nat) (t : Text) : Option Nat :=
  match signalNumber? t with
  | some n => some n
  | none =>
      let wanted := t.map Char.toUpper
      ((signalNames.findIdx? fun n => n.toList == wanted).filter (least ≤ ·))

end Runbook.Shell
