import Runbook.Shell.Arithmetic
import Runbook.Shell.Place

set_option autoImplicit false

/-! # Tests

The command that tests texts, integers and files. Its words are read from left to right, and
every operand is looked at: conjunctions bind closer than disjunctions, a mark of exclamation
negates, and brackets group. A word counts as an operator only where an operator can stand.
-/

namespace Runbook.Shell

/-- The tests of one operand. -/
def unaryTests : List String := ["-b", "-c", "-d", "-e", "-f", "-g", "-G", "-h", "-k", "-L", "-n",
  "-O", "-p", "-r", "-s", "-S", "-t", "-u", "-w", "-x", "-z"]

/-- The tests of two operands. -/
def binaryTests : List String := ["=", "!=", "<", ">", "-eq", "-ne", "-lt", "-le", "-gt", "-ge",
  "-nt", "-ot", "-ef"]

/-- What the first of the words that are left is. -/
inductive TestWord where
  | finish
  | operand
  | unary
  | binary
  | negation
  | conjunction
  | disjunction
  | opening
  | closing
  deriving DecidableEq, Repr

/-- Whether a text is in a list. -/
def isOneOf (names : List String) (t : Text) : Bool := names.any (·.toList == t)

/-- What the first word is. The name of a test is an operand if it is the last word, or if a test
of two operands follows it. -/
def TestWord.of (words : List Text) : TestWord :=
  match words with
  | [] => .finish
  | w :: rest =>
      if isOneOf unaryTests w then
        match rest with
        | [] => .operand
        | [_] => .unary
        | op :: _ => if isOneOf binaryTests op then .operand else .unary
      else if isOneOf binaryTests w then .binary
      else
        match String.ofList w with
        | "!" => .negation
        | "-a" => .conjunction
        | "-o" => .disjunction
        | "(" => if rest.isEmpty then .operand else .opening
        | ")" => .closing
        | _ => .operand

/-- Reads the words that are left; a fault is a message. -/
abbrev Testing (α : Type) := StateT (List Text) (Except Text) α

namespace Testing

/-- Refuses the words because of one of them. -/
def refuse {α : Type} (word : Text) (message : String) : Testing α :=
  throw (if word.isEmpty then message.toList else word ++ ": ".toList ++ message.toList)

/-- Passes over `n` words. -/
def skip (n : Nat) : Testing Unit := modify fun ws => ws.drop n

/-- The integer that a word is. -/
def integer (t : Text) : Testing Int :=
  match numberOf? true t with
  | some n => return n
  | none => throw ("Illegal number: ".toList ++ t)

/-- The result of a test of one operand. -/
def testOne (s : State) (op operand : Text) : Testing Bool := do
  let entry := look? s operand
  match String.ofList op with
  | "-n" => return !operand.isEmpty
  | "-z" => return operand.isEmpty
  | "-d" => return entry == some .directory
  | "-f" => return (file? s operand).isSome
  | "-c" => return isDevice s operand
  | "-p" => return match place? s operand with
      | some (.opened _ _) => true
      | _ => false
  | "-s" => return match entry with
      | some (.file bytes _) => !bytes.isEmpty
      | e => e.isSome
  | "-x" => return match entry with
      | some (.file _ runnable) => runnable
      | e => e.isSome
  | "-u" => hasBit 0o4000
  | "-g" => hasBit 0o2000
  | "-k" => hasBit 0o1000
  | "-t" => do
      let _ ← integer operand
      return false
  | other => return ["-e", "-r", "-w", "-O", "-G"].contains other && entry.isSome
where
  /-- Whether a bit of the permissions of the operand is set. -/
  hasBit (bit : Nat) : Testing Bool :=
    return (reached s operand).any fun names => Nat.land (s.system.modeOf names) bit != 0

/-- The result of a test of two operands. -/
def testTwo (s : State) (a op b : Text) : Testing Bool := do
  let compare := fun (f : Int → Int → Bool) => do
    let m ← integer a
    let n ← integer b
    return f m n
  match String.ofList op with
  | "=" => return a == b
  | "!=" => return a != b
  | "<" => return Text.before a b
  | ">" => return Text.before b a
  | "-eq" => compare fun m n => m == n
  | "-ne" => compare fun m n => m != n
  | "-lt" => compare fun m n => m < n
  | "-le" => compare fun m n => m ≤ n
  | "-gt" => compare fun m n => n < m
  | "-ge" => compare fun m n => n ≤ m
  | "-ef" =>
      return match reached s a, reached s b with
        | some m, some n => (s.system.namesOf m).contains n
        | _, _ => false
  | "-nt" => return later a b
  | "-ot" => return later b a
  | _ => return false
where
  /-- Whether the file of one path was changed later than that of another one. -/
  later (t u : Text) : Bool :=
    match reached s t, reached s u with
    | some m, some n => s.system.timeOf n < s.system.timeOf m
    | _, _ => false

mutual

/-- A disjunction, whose first word is of the kind `w`. -/
def disjunction (s : State) (fuel : Nat) (w : TestWord) : Testing Bool :=
  match fuel with
  | 0 => return false
  | fuel + 1 => do
      let a ← conjunction s fuel w
      if TestWord.of ((← get).drop 1) == .disjunction then
        skip 2
        let b ← disjunction s fuel (TestWord.of (← get))
        return a || b
      else return a

/-- A conjunction. -/
def conjunction (s : State) (fuel : Nat) (w : TestWord) : Testing Bool :=
  match fuel with
  | 0 => return false
  | fuel + 1 => do
      let a ← negation s fuel w
      if TestWord.of ((← get).drop 1) == .conjunction then
        skip 2
        let b ← conjunction s fuel (TestWord.of (← get))
        return a && b
      else return a

/-- An operand that may be negated. -/
def negation (s : State) (fuel : Nat) (w : TestWord) : Testing Bool :=
  match fuel with
  | 0 => return false
  | fuel + 1 => do
      if w != .negation then primary s fuel w
      else
        let next := TestWord.of ((← get).drop 1)
        if next != .finish then skip 1
        return !(← negation s fuel next)

/-- A test, or a disjunction between brackets. -/
def primary (s : State) (fuel : Nat) (w : TestWord) : Testing Bool :=
  match fuel with
  | 0 => return false
  | fuel + 1 => do
      match w, ← get with
      | .finish, _ => return false
      | _, [] => return false
      | .opening, _ :: rest =>
          skip 1
          let next := TestWord.of rest
          if next == .closing then return false
          let r ← disjunction s fuel next
          skip 1
          if TestWord.of (← get) != .closing then refuse [] "closing paren expected"
          return r
      | .unary, op :: rest =>
          skip 1
          match rest with
          | [] => refuse op "argument expected"
          | a :: _ => testOne s op a
      | _, a :: rest =>
          if TestWord.of rest == .binary then
            match rest with
            | op :: b :: _ =>
                skip 2
                testTwo s a op b
            | _ => refuse (rest.head?.getD []) "argument expected"
          else return !a.isEmpty

end

/-- The result of the test that the whole of the words are. Three words around a test of two
operands are that test, whatever the words are. -/
def whole (s : State) (words : List Text) : Testing Bool := do
  set words
  let isTest := match words with
    | [_, op, _] => isOneOf binaryTests op
    | _ => false
  let r ← disjunction s (4 * words.length + 8) (if isTest then .operand else TestWord.of words)
  match ← get with
  | a :: _ :: _ => refuse a "unexpected operator"
  | _ => return r

/-- The result of a test of words. Three or four of them may be negated or stand between brackets
as a whole; marks of exclamation before them negate once, however many there are. -/
def ofWords (s : State) (negated : Bool) : List Text → Testing Bool
  | [] => return false
  | w :: rest => do
      let words := w :: rest
      let isTest := match words with
        | [_, op, _] => isOneOf binaryTests op
        | _ => false
      let isShort := words.length == 3 || words.length == 4
      if !isTest && isShort && w == ['!'] then
        ofWords s true rest
      else
        let r ← whole s (if !isTest && isShort && w == ['('] && words.getLast? == some [')'] then
          rest.dropLast else words)
        return r != negated

end Testing

/-- The exit status of a test without brackets around it. -/
def test (arguments : List Text) : Action Nat := do
  match (Testing.ofWords (← get) false arguments).run arguments with
  | .ok (r, _) => return if r then 0 else 1
  | .error message => fail message

/-- The exit status of a test between brackets. -/
def bracketTest (arguments : List Text) : Action Nat :=
  if (arguments.getLast?.bind List.head?) == some ']' then test arguments.dropLast
  else fail "missing ]".toList

end Runbook.Shell
