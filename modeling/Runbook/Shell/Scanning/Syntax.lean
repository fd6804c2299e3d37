import Runbook.Shell.Regular

set_option autoImplicit false

/-! # Programs that scan records

A program of this language is a list of rules, each a pattern and what is done with the records
that it fits, and functions. Its values are numbers and texts; its variables hold one or a table of
many.
-/

namespace Runbook.Shell.Scanning

/-- What a variable is found by: its place among those of a function, or its name. -/
inductive Variable where
  | own (place : Nat)
  | shared (name : String)
  deriving DecidableEq, Repr

/-- An operator between two values. -/
inductive Operator where
  | plus
  | minus
  | times
  | divided
  | remainder
  | power
  | joined
  | less
  | atMost
  | equal
  | unequal
  | greater
  | atLeast
  deriving DecidableEq, Repr

/-- A function that the language has. -/
inductive Builtin where
  | length
  | substring
  | index
  | split
  | substitute (all : Bool)
  | matching
  | format
  | lower
  | upper
  | sine
  | cosine
  | arcTangent
  | exponential
  | logarithm
  | squareRoot
  | integer
  | chance
  | seed
  | system
  | close
  | flush
  | now
  | dateText
  | dateMoment
  deriving DecidableEq, Repr

/-- Where a record is taken from that is asked for. -/
inductive Source where
  | main
  | file
  | command
  deriving DecidableEq, Repr

/-- An expression. -/
inductive Term where
  | number (x : Float)
  | text (t : Text)
  /-- A regular expression by itself asks whether the record matches. -/
  | regular (t : Text)
  /-- What a variable holds. -/
  | held (v : Variable)
  | element (v : Variable) (key : Term)
  | field (e : Term)
  | conditional (c a b : Term)
  | either (a b : Term)
  | both (a b : Term)
  | negation (a : Term)
  | minus (a : Term)
  | plus (a : Term)
  | binary (op : Operator) (a b : Term)
  | matches (wanted : Bool) (a pattern : Term)
  | member (v : Variable) (key : Term)
  | assign (op : Option Operator) (target value : Term)
  /-- A step up or down; the value is that before or behind the step. -/
  | step (up before : Bool) (target : Term)
  | call (name : String) (arguments : List Term)
  | builtin (f : Builtin) (arguments : List Term)
  | next (s : Source) (name target : Option Term)
  /-- Several expressions between brackets. -/
  | several (es : List Term)
  deriving Inhabited

/-- The expressions of a key that has several parts, as one. -/
def Term.key (separator : Term) : List Term → Term
  | [] => .text []
  | [e] => e
  | e :: es => es.foldl (fun done e => .binary .joined (.binary .joined done separator) e) e

/-- Where something is printed. -/
inductive Destination where
  | file
  | appended
  | command
  deriving DecidableEq, Repr

/-- A statement. -/
inductive Statement where
  | nothing
  | evaluate (e : Term)
  | print (es : List Term) (target : Option (Destination × Term))
  | printFormat (es : List Term) (target : Option (Destination × Term))
  | sequence (a b : Statement)
  | choice (c : Term) (a b : Statement)
  | repetition (c : Term) (step : Statement) (body : Statement)
  | repetitionOnce (c : Term) (body : Statement)
  | overKeys (target : Variable) (table : Variable) (body : Statement)
  | next
  | nextFile
  | exit (e : Option Term)
  | answer (e : Option Term)
  | leave
  | resume
  | delete (v : Variable) (key : Option Term)
  deriving Inhabited

/-- When a rule is followed. -/
inductive Pattern where
  | first
  | last
  | always
  | fits (e : Term)
  /-- From a record that fits the first one to one that fits the second one. -/
  | between (first last : Term) (place : Nat)

/-- A function of a program. -/
structure Function where
  name : String
  /-- How many variables it has of its own. -/
  size : Nat
  body : Statement

/-- A program. -/
structure Program where
  rules : List (Pattern × Statement) := []
  functions : List Function := []

end Runbook.Shell.Scanning
