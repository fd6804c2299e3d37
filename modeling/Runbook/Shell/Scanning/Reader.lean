import Runbook.Shell.Printing
import Runbook.Shell.Scanning.Syntax

set_option autoImplicit false

/-! # Reading programs that scan records

A program is cut into tokens, of which a slash is a regular expression where an operand can begin
and an operator elsewhere. Expressions are then read by the rank of their operators. Line ends end
statements, but not behind signs that need something behind them.
-/

namespace Runbook.Shell.Scanning

/-! ## Tokens -/

/-- A token. -/
inductive Token where
  | number (x : Float)
  | text (t : Text)
  | regular (t : Text)
  /-- A name, and whether an opening bracket stands directly behind it. -/
  | name (s : String) (calls : Bool)
  | word (s : String)
  | sign (s : String)
  | lineEnd
  deriving Inhabited

/-- Why a text is no program, in the lines of a message. -/
abbrev Fault := List Text

/-- The message that something is wrong at a line. -/
def faultAt (line : Nat) (message : Text) : Fault :=
  ["line ".toList ++ Text.ofNat line ++ ": ".toList ++ message]

/-- The words of the language. -/
def keywords : List String := ["BEGIN", "END", "function", "if", "else", "while", "for",
  "do", "break", "continue", "next", "nextfile", "exit", "return", "delete", "in", "getline",
  "print", "printf"]

/-- The functions of the language by their names. -/
def builtins : List (String × Builtin) := [("length", .length), ("substr", .substring),
  ("index", .index), ("split", .split), ("sub", .substitute false), ("gsub", .substitute true),
  ("match", .matching), ("sprintf", .format), ("tolower", .lower), ("toupper", .upper),
  ("sin", .sine), ("cos", .cosine), ("atan2", .arcTangent), ("exp", .exponential),
  ("log", .logarithm), ("sqrt", .squareRoot), ("int", .integer), ("rand", .chance),
  ("srand", .seed), ("system", .system), ("close", .close), ("fflush", .flush),
  ("systime", .now), ("strftime", .dateText), ("mktime", .dateMoment)]

/-- How many arguments a function of the language has, at least and at most. -/
def Builtin.arguments : Builtin → Nat × Option Nat
  | substring => (2, some 3)
  | index => (2, some 2)
  | format => (1, none)
  | chance => (0, some 0)
  | seed => (0, some 1)
  | arcTangent => (2, some 2)
  | flush => (0, some 1)
  | now => (0, some 0)
  | dateText => (0, some 3)
  | _ => (1, some 1)

/-- The signs of the language, longer ones before their beginnings. -/
def signs : List String := ["**=", "&&", "||", "==", "!=", "<=", ">=", "+=", "-=", "*=", "/=",
  "%=", "^=", "++", "--", "!~", ">>", "\x7b", "\x7d", "(", ")", "[", "]", ";", ",", "+", "-", "*",
  "/", "%", "^", "!", ">", "<", "|", "?", ":", "~", "$", "="]

/-- Whether an operand can end with a token, so that a slash behind it divides. -/
def Token.endsOperand : Token → Bool
  | number _ => true
  | text _ => true
  | regular _ => true
  | name _ _ => true
  | word s => s == "getline" || (builtins.any (·.1 == s))
  | sign s => s == ")" || s == "]" || s == "++" || s == "--" || s == "$"
  | lineEnd => false

/-- A token in the words of a message. -/
def Token.shown : Token → Text
  | number x => (toString x).toList
  | text t => t
  | regular t => '/' :: t ++ ['/']
  | name s _ => s.toList
  | word s => s.toList
  | sign s => s.toList
  | lineEnd => "end of line".toList

/-- The inside of quotation marks, and what stands behind them. -/
def readQuoted : Nat → Text → Option (Text × Text)
  | 0, _ => none
  | _, [] => none
  | fuel + 1, c :: rest =>
      let add := fun (t : Text) (rest : Text) =>
        (readQuoted fuel rest).map fun (u, r) => (t ++ u, r)
      if c == '"' then some ([], rest)
      else if c == '\n' then none
      else if c == '\\' then
        match rest with
        | '\n' :: more => add [] more
        | 'a' :: more => add ['\x07'] more
        | 'b' :: more => add ['\x08'] more
        | 'f' :: more => add ['\x0c'] more
        | 'n' :: more => add ['\n'] more
        | 'r' :: more => add ['\r'] more
        | 't' :: more => add ['\t'] more
        | 'v' :: more => add ['\x0b'] more
        | '\\' :: more => add ['\\'] more
        | '"' :: more => add ['"'] more
        | 'x' :: more =>
            let digits := (more.take 2).takeWhile (isDigitIn 16)
            if digits.isEmpty then add ['\\', 'x'] more
            else add [byteOf (inBase 16 digits)] (more.drop digits.length)
        | d :: more =>
            if '0' ≤ d && d ≤ '7' then
              let (digits, after) := takeOctal 3 (d :: more)
              add [byteOf (inBase 8 digits)] after
            else add ['\\', d] more
        | [] => none
      else add [c] rest

/-- The text of a regular expression up to the slash that ends it, and what stands behind. -/
def readSlashed : Nat → Bool → Text → Option (Text × Text)
  | 0, _, _ => none
  | _, _, [] => none
  | fuel + 1, inSet, c :: rest =>
      let add := fun (t : Text) (inSet : Bool) (rest : Text) =>
        (readSlashed fuel inSet rest).map fun (u, r) => (t ++ u, r)
      if c == '/' && !inSet then some ([], rest)
      else if c == '\n' then none
      else if c == '\\' then
        match rest with
        | '/' :: more => add ['/'] inSet more
        | d :: more => add ['\\', d] inSet more
        | [] => none
      else if c == '[' && !inSet then
        -- A bracket that stands first in a set belongs to it.
        match rest with
        | '^' :: ']' :: more => add ['[', '^', ']'] true more
        | ']' :: more => add ['[', ']'] true more
        | _ => add ['['] true rest
      else if c == ']' && inSet then add [c] false rest
      else add [c] inSet rest

/-- The number nearest to a decimal. -/
def floatOf (x : Double) : Float :=
  match x with
  | .nan => 0.0 / 0.0
  | .infinite negative => if negative then -1.0 / 0.0 else 1.0 / 0.0
  | .finite negative m e =>
      let bits := if m < Double.twoTo 52 then m
        else (m - Double.twoTo 52) + (e + 1075).toNat * Double.twoTo 52
      let x := Float.ofBits bits.toUInt64
      if negative then -x else x

/-- The tokens of a program, each with its line. -/
def tokens : Nat → Nat → Bool → Text → Except Fault (List (Nat × Token))
  | 0, line, _, _ => .error (faultAt line "program too long".toList)
  | _, _, _, [] => .ok []
  | fuel + 1, line, operand, c :: rest =>
      let put := fun (t : Token) (rest : Text) => do
        .ok ((line, t) :: (← tokens fuel line t.endsOperand rest))
      let isDigit := c.isDigit || (c == '.' && (rest.head?).any Char.isDigit)
      if c == '\n' then do
        .ok ((line, .lineEnd) :: (← tokens fuel (line + 1) false rest))
      else if c == ' ' || c == '\t' || c == '\r' then tokens fuel line operand rest
      else if c == '\\' && rest.head? == some '\n' then
        tokens fuel (line + 1) operand (rest.drop 1)
      else if c == '\\' && rest.take 2 == ['\r', '\n'] then
        tokens fuel (line + 1) operand (rest.drop 2)
      else if c == '#' then tokens fuel line operand (rest.dropWhile (· != '\n'))
      else if isDigit then
        let t := c :: rest
        let (digits, places, after) := takeDecimal 10 t
        let (power, after) := takePower 'e' after
        put (.number (floatOf (Double.ofDecimal false (inBase 10 digits) (power - places)))) after
      else if c.isAlpha || c == '_' then
        let s := (c :: rest).takeWhile fun d => d.isAlphanum || d == '_'
        let after := (c :: rest).drop s.length
        let name := String.ofList s
        if keywords.contains name || builtins.any (·.1 == name) then put (.word name) after
        else put (.name name (after.head? == some '(')) after
      else if c == '"' then
        match readQuoted (rest.length + 1) rest with
        | some (t, after) => put (.text t) after
        | none =>
            .error (faultAt line ("runaway string constant \"".toList ++ rest.take 10 ++
              " ...".toList))
      else if c == '/' && !operand then
        match readSlashed (rest.length + 1) false rest with
        | some (t, after) => put (.regular t) after
        | none =>
            .error (faultAt line ("runaway regular expression /".toList ++ rest.take 10 ++
              " ...".toList))
      else
        match signs.find? fun s => s.toList.isPrefixOf (c :: rest) with
        | some s =>
            let s' := if s == "**=" then "^=" else s
            put (.sign s') ((c :: rest).drop s.length)
        | none =>
            .error [Text.ofNat line ++ ": unexpected character '".toList ++ [c, '\'']]

/-! ## Reading -/

/-- What is read: the tokens left, the line, the names of the current function, and how many ranges
there have been. -/
structure Reading where
  left : List (Nat × Token)
  line : Nat := 1
  names : List String := []
  inFunction : Bool := false
  /-- Whether the rule is followed for records. -/
  forRecords : Bool := true
  inLoop : Bool := false
  /-- The functions that are called, each with its line and the number of its arguments. -/
  calls : List (String × Nat × Nat) := []
  ranges : Nat := 0

/-- Reads the tokens that are left. -/
abbrev Read (α : Type) := StateT Reading (Except Fault) α

namespace Read

/-- The next token. -/
def peek : Read (Option Token) := do return (← get).left.head?.map (·.2)

/-- Passes over a token. -/
def skip : Read Unit := modify fun r =>
  { r with left := r.left.drop 1, line := ((r.left.head?).map (·.1)).getD r.line }

/-- Refuses the next token. -/
def refuse {α : Type} : Read α := do
  let r ← get
  match r.left with
  | (line, t) :: _ => throw (faultAt line ("syntax error at or near ".toList ++ t.shown))
  | [] => throw (faultAt r.line "unexpected end of program".toList)

/-- Refuses what has just been read, for a reason. -/
def refuseAs {α : Type} (message : String) : Read α := do
  throw (faultAt (← get).line message.toList)

/-- Whether a sign comes next. -/
def isNext (s : String) : Read Bool := do
  match ← peek with
  | some (.sign u) => return u == s
  | _ => return false

/-- Whether a word comes next. -/
def isWord (s : String) : Read Bool := do
  match ← peek with
  | some (.word u) => return u == s
  | _ => return false

/-- Passes over a sign if it comes next, and says whether it did. -/
def take (s : String) : Read Bool := do
  if ← isNext s then
    skip
    return true
  return false

/-- Passes over a word if it comes next, and says whether it did. -/
def takeWord (s : String) : Read Bool := do
  if ← isWord s then
    skip
    return true
  return false

/-- Passes over a sign that must come next. -/
def demand (s : String) : Read Unit := do
  if !(← take s) then refuse

/-- Passes over line ends. -/
def skipLines : Read Unit := modify fun r =>
  let left := r.left.dropWhile fun (_, t) => match t with
    | .lineEnd => true
    | _ => false
  { r with left, line := (left.head?.map (·.1)).getD r.line }

/-- Passes over line ends and semicolons. -/
def skipEnds : Read Unit := modify fun r =>
  let left := r.left.dropWhile fun (_, t) => match t with
    | .lineEnd => true
    | .sign ";" => true
    | _ => false
  { r with left, line := (left.head?.map (·.1)).getD r.line }

/-- The variable of a name. -/
def variableOf (name : String) : Read Scanning.Variable := do
  match (← get).names.findIdx? (· == name) with
  | some n => return .own n
  | none => return .shared name

/-- The name that comes next. -/
def name : Read String := do
  match ← peek with
  | some (.name s _) =>
      skip
      return s
  | _ => refuse

end Read

open Read

/-- What stands between the parts of a key. -/
def keySeparator : Term := Term.held (.shared "SUBSEP")

/-- Whether an operand can begin with a token. -/
def Token.beginsOperand : Token → Bool
  | number _ => true
  | text _ => true
  | regular _ => false
  | name _ _ => true
  | word s => builtins.any (·.1 == s)
  | sign s => s == "$" || s == "(" || s == "!" || s == "++" || s == "--"
  | lineEnd => false

/-- Whether something can be assigned to an expression. -/
def Term.isTarget : Term → Bool
  | held _ => true
  | element _ _ => true
  | field _ => true
  | _ => false

/-- The operators that assign. -/
def assignments : List (String × Option Operator) := [("=", none), ("+=", some .plus),
  ("-=", some .minus), ("*=", some .times), ("/=", some .divided), ("%=", some .remainder),
  ("^=", some .power)]

/-- The operators that compare. -/
def comparisons : List (String × Operator) := [("<", .less), ("<=", .atMost), ("==", .equal),
  ("!=", .unequal), (">", .greater), (">=", .atLeast)]

mutual

/-- Reads an expression. Outside of brackets a sign for greater may be one for a file. -/
def term (fuel : Nat) (greater : Bool) : Read Term :=
  match fuel with
  | 0 => refuse
  | fuel + 1 => do
      let a ← disjunction fuel greater
      if ← take "?" then
        skipLines
        let b ← term fuel greater
        skipLines
        demand ":"
        skipLines
        let c ← term fuel greater
        return .conditional a b c
      match ← peek with
      | some (.sign s) =>
          match assignments.find? (·.1 == s) with
          | some (_, op) =>
              match assigned a with
              | some (target, wrap) =>
                  skip
                  skipLines
                  let b ← term fuel greater
                  return wrap (.assign op target b)
              | none => return a
          | none => return a
      | _ => return a
where
  /-- The last operand of an expression if something can be assigned to it, and what the expression
  makes of the assignment. -/
  assigned : Term → Option (Term × (Term → Term))
    | .negation a => (assigned a).map fun (t, wrap) => (t, fun e => .negation (wrap e))
    | .minus a => (assigned a).map fun (t, wrap) => (t, fun e => .minus (wrap e))
    | .both a b => (assigned b).map fun (t, wrap) => (t, fun e => .both a (wrap e))
    | .either a b => (assigned b).map fun (t, wrap) => (t, fun e => .either a (wrap e))
    | .binary op a b => (assigned b).map fun (t, wrap) => (t, fun e => .binary op a (wrap e))
    | e => if e.isTarget then some (e, id) else none

/-- Reads alternatives. -/
def disjunction (fuel : Nat) (greater : Bool) : Read Term :=
  match fuel with
  | 0 => refuse
  | fuel + 1 => do
      let a ← conjunction fuel greater
      disjunctionRest fuel greater a

/-- Reads the alternatives behind one. -/
def disjunctionRest (fuel : Nat) (greater : Bool) (a : Term) : Read Term :=
  match fuel with
  | 0 => refuse
  | fuel + 1 => do
      if ← take "||" then
        skipLines
        let b ← conjunction fuel greater
        disjunctionRest fuel greater (.either a b)
      else return a

/-- Reads conditions that must all be met. -/
def conjunction (fuel : Nat) (greater : Bool) : Read Term :=
  match fuel with
  | 0 => refuse
  | fuel + 1 => do
      let a ← membership fuel greater
      conjunctionRest fuel greater a

/-- Reads the conditions behind one. -/
def conjunctionRest (fuel : Nat) (greater : Bool) (a : Term) : Read Term :=
  match fuel with
  | 0 => refuse
  | fuel + 1 => do
      if ← take "&&" then
        skipLines
        let b ← membership fuel greater
        conjunctionRest fuel greater (.both a b)
      else return a

/-- Reads whether something is a key of a table. -/
def membership (fuel : Nat) (greater : Bool) : Read Term :=
  match fuel with
  | 0 => refuse
  | fuel + 1 => do
      let a ← matching fuel greater
      membershipRest fuel a

/-- Reads the tables behind a key. -/
def membershipRest (fuel : Nat) (a : Term) : Read Term :=
  match fuel with
  | 0 => refuse
  | fuel + 1 => do
      if ← takeWord "in" then
        let v ← variableOf (← name)
        let key := match a with
          | .several es => Term.key keySeparator es
          | e => e
        membershipRest fuel (.member v key)
      else return a

/-- Reads whether something matches a regular expression. -/
def matching (fuel : Nat) (greater : Bool) : Read Term :=
  match fuel with
  | 0 => refuse
  | fuel + 1 => do
      let a ← comparison fuel greater
      matchingRest fuel greater a

/-- Reads the regular expressions behind an operand. -/
def matchingRest (fuel : Nat) (greater : Bool) (a : Term) : Read Term :=
  match fuel with
  | 0 => refuse
  | fuel + 1 => do
      if ← take "~" then
        let b ← comparison fuel greater
        matchingRest fuel greater (.matches true a b)
      else if ← take "!~" then
        let b ← comparison fuel greater
        matchingRest fuel greater (.matches false a b)
      else return a

/-- Reads a comparison. -/
def comparison (fuel : Nat) (greater : Bool) : Read Term :=
  match fuel with
  | 0 => refuse
  | fuel + 1 => do
      let a ← joining fuel greater
      comparisonRest fuel greater a

/-- Reads the comparisons behind an operand. -/
def comparisonRest (fuel : Nat) (greater : Bool) (a : Term) : Read Term :=
  match fuel with
  | 0 => refuse
  | fuel + 1 => do
      match ← peek with
      | some (.sign s) =>
          if s == ">" && !greater then return a
          match comparisons.find? (·.1 == s) with
          | some (_, op) =>
              skip
              let b ← joining fuel greater
              comparisonRest fuel greater (.binary op a b)
          | none => return a
      | _ => return a

/-- Reads operands that are joined because they stand side by side. -/
def joining (fuel : Nat) (greater : Bool) : Read Term :=
  match fuel with
  | 0 => refuse
  | fuel + 1 => do
      let a ← additive fuel greater
      joiningRest fuel greater a

/-- Reads the operands beside one. -/
def joiningRest (fuel : Nat) (greater : Bool) (a : Term) : Read Term :=
  match fuel with
  | 0 => refuse
  | fuel + 1 => do
      match ← peek with
      | some t =>
          if t.beginsOperand then
            let b ← additive fuel greater
            joiningRest fuel greater (.binary .joined a b)
          else return a
      | none => return a

/-- Reads a sum. -/
def additive (fuel : Nat) (greater : Bool) : Read Term :=
  match fuel with
  | 0 => refuse
  | fuel + 1 => do
      let a ← product fuel greater
      additiveRest fuel greater a

/-- Reads the summands behind one. -/
def additiveRest (fuel : Nat) (greater : Bool) (a : Term) : Read Term :=
  match fuel with
  | 0 => refuse
  | fuel + 1 => do
      if ← take "+" then
        let b ← product fuel greater
        additiveRest fuel greater (.binary .plus a b)
      else if ← take "-" then
        let b ← product fuel greater
        additiveRest fuel greater (.binary .minus a b)
      else return a

/-- Reads a product. -/
def product (fuel : Nat) (greater : Bool) : Read Term :=
  match fuel with
  | 0 => refuse
  | fuel + 1 => do
      let a ← signed fuel greater
      productRest fuel greater a

/-- Reads the factors behind one. -/
def productRest (fuel : Nat) (greater : Bool) (a : Term) : Read Term :=
  match fuel with
  | 0 => refuse
  | fuel + 1 => do
      if ← take "*" then
        let b ← signed fuel greater
        productRest fuel greater (.binary .times a b)
      else if ← take "/" then
        let b ← signed fuel greater
        productRest fuel greater (.binary .divided a b)
      else if ← take "%" then
        let b ← signed fuel greater
        productRest fuel greater (.binary .remainder a b)
      else return a

/-- Reads an operand behind signs. -/
def signed (fuel : Nat) (greater : Bool) : Read Term :=
  match fuel with
  | 0 => refuse
  | fuel + 1 => do
      if ← take "!" then return .negation (← signed fuel greater)
      else if ← take "-" then return .minus (← signed fuel greater)
      else if ← take "+" then return .plus (← signed fuel greater)
      else
        let a ← powered fuel
        pipedRest fuel a

/-- Reads the records that are taken from the command before. -/
def pipedRest (fuel : Nat) (a : Term) : Read Term :=
  match fuel with
  | 0 => refuse
  | fuel + 1 => do
      match ((← get).left.map (·.2) : List Token) with
      | .sign "|" :: .word "getline" :: _ =>
          skip
          skip
          let target ← targetNext fuel
          pipedRest fuel (.next .command (some a) target)
      | _ => return a

/-- Reads a power. -/
def powered (fuel : Nat) : Read Term :=
  match fuel with
  | 0 => refuse
  | fuel + 1 => do
      let a ← stepped fuel
      if ← take "^" then
        let b ← exponent fuel
        return .binary .power a b
      else return a

/-- Reads an exponent. -/
def exponent (fuel : Nat) : Read Term :=
  match fuel with
  | 0 => refuse
  | fuel + 1 => do
      if ← take "-" then return .minus (← exponent fuel)
      else if ← take "+" then return .plus (← exponent fuel)
      else if ← take "!" then return .negation (← exponent fuel)
      else powered fuel

/-- Reads an operand that may be stepped up or down. -/
def stepped (fuel : Nat) : Read Term :=
  match fuel with
  | 0 => refuse
  | fuel + 1 => do
      if ← take "++" then return .step true true (← primary fuel)
      else if ← take "--" then return .step false true (← primary fuel)
      else
        let a ← primary fuel
        if a.isTarget then
          if ← take "++" then return .step true false a
          else if ← take "--" then return .step false false a
          else return a
        else return a

/-- Reads something that can be assigned to if it comes next. -/
def targetNext (fuel : Nat) : Read (Option Term) :=
  match fuel with
  | 0 => refuse
  | fuel + 1 => do
      match ← peek with
      | some (.name _ false) => return some (← primary fuel)
      | some (.sign "$") => return some (← primary fuel)
      | _ => return none

/-- Reads expressions between commas. -/
def termList (fuel : Nat) (greater : Bool) : Read (List Term) :=
  match fuel with
  | 0 => refuse
  | fuel + 1 => do
      let a ← term fuel greater
      if ← take "," then
        skipLines
        return a :: (← termList fuel greater)
      else return [a]

/-- Reads the arguments between brackets. -/
def arguments (fuel : Nat) : Read (List Term) :=
  match fuel with
  | 0 => refuse
  | fuel + 1 => do
      demand "("
      skipLines
      if ← take ")" then return []
      let es ← termList fuel true
      skipLines
      demand ")"
      return es

/-- Reads the arguments of a function of the language. -/
def given (fuel : Nat) (s : String) (f : Builtin) : Read (List Term) :=
  match fuel with
  | 0 => refuse
  | fuel + 1 => do
      let comma := do
        demand ","
        skipLines
      match f with
      | .substitute _ =>
          demand "("
          skipLines
          let r ← term fuel true
          comma
          let new ← term fuel true
          if ← take "," then
            skipLines
            let target ← match ← peek with
              | some (.name _ false) => term fuel true
              | some (.sign "$") => term fuel true
              | some (.sign "(") => term fuel true
              | _ => refuse
            demand ")"
            return [r, new, target]
          demand ")"
          return [r, new]
      | .matching =>
          demand "("
          skipLines
          let t ← term fuel true
          comma
          let r ← term fuel true
          demand ")"
          return [t, r]
      | .split =>
          demand "("
          skipLines
          let t ← term fuel true
          comma
          let v ← variableOf (← name)
          if ← take "," then
            skipLines
            let separator ← term fuel true
            demand ")"
            return [t, .held v, separator]
          demand ")"
          return [t, .held v]
      | .length =>
          demand "("
          skipLines
          if ← take ")" then return []
          let e ← term fuel true
          demand ")"
          return [e]
      | f =>
          let es ← arguments fuel
          let (least, most) := f.arguments
          if es.length < least || most.any (· < es.length) then
            refuseAs ("wrong number of arguments in call to " ++ s)
          return es

/-- Reads an operand without signs. -/
def primary (fuel : Nat) : Read Term :=
  match fuel with
  | 0 => refuse
  | fuel + 1 => do
      match ← peek with
      | some (.number x) =>
          skip
          return .number x
      | some (.text t) =>
          skip
          return .text t
      | some (.regular t) =>
          skip
          return .regular t
      | some (.sign "$") =>
          skip
          if ← take "++" then return .field (.step true true (← primary fuel))
          else if ← take "--" then return .field (.step false true (← primary fuel))
          else if ← take "-" then return .field (.minus (← primary fuel))
          else return .field (← primary fuel)
      | some (.sign "(") =>
          skip
          skipLines
          let es ← termList fuel true
          skipLines
          demand ")"
          match es with
          | [e] => return .several [e]
          | es => return .several es
      | some (.word "getline") =>
          skip
          let target ← targetNext fuel
          if ← take "<" then
            let file ← primary fuel
            return .next .file (some file) target
          else return .next .main none target
      | some (.word s) =>
          match builtins.find? (·.1 == s) with
          | some (_, f) =>
              skip
              if f == .length && !(← isNext "(") then return .builtin f []
              .builtin f <$> given fuel s f
          | none => refuse
      | some (.name s true) =>
          skip
          let es ← arguments fuel
          modify fun r => { r with calls := r.calls ++ [(s, r.line, es.length)] }
          return .call s es
      | some (.name s false) =>
          skip
          let v ← variableOf s
          if ← take "[" then
            let es ← termList fuel true
            demand "]"
            return .element v (Term.key keySeparator es)
          else return .held v
      | _ => refuse

end

/-! ## Statements -/

/-- Whether a statement ends here. -/
def atEnd : Read Bool := do
  match ← peek with
  | none => return true
  | some .lineEnd => return true
  | some (.sign s) => return s == ";" || s == "\x7d"
  | _ => return false

/-- Reads the end of a simple statement. -/
def ending : Read Unit := do
  match ← peek with
  | none => return
  | some .lineEnd => skip
  | some (.sign ";") => skip
  | some (.sign "\x7d") => return
  | _ => refuse

/-- Reads what is printed, and where. -/
def printed (fuel : Nat) : Read (List Term × Option (Destination × Term)) := do
  let isSign := fun (t : Option Token) => match t with
    | some (.sign s) => s == ">" || s == ">>" || s == "|"
    | _ => false
  let es ← if (← atEnd) || isSign (← peek) then pure [] else termList fuel false
  let es := match es with
    | [.several es] => es
    | es => es
  if ← take ">" then return (es, some (.file, ← term fuel true))
  else if ← take ">>" then return (es, some (.appended, ← term fuel true))
  else if ← take "|" then return (es, some (.command, ← term fuel true))
  else return (es, none)

/-- Reads a statement that holds no others. -/
def simple (fuel : Nat) : Read Statement := do
  if ← takeWord "print" then
    let (es, target) ← printed fuel
    return .print es target
  else if ← takeWord "printf" then
    let (es, target) ← printed fuel
    if es.isEmpty then refuseAs "no arguments in call to printf"
    return .printFormat es target
  else if ← takeWord "delete" then
    let v ← variableOf (← name)
    if ← take "[" then
      let es ← termList fuel true
      demand "]"
      return .delete v (some (Term.key keySeparator es))
    return .delete v none
  else return .evaluate (← term fuel true)

/-- Whether a loop over the keys of a table comes next: its variable and the table. -/
def keysNext : Read (Option (String × String)) := do
  match ((← get).left.map (·.2) : List Token) with
  | .name k false :: .word "in" :: .name t false :: .sign ")" :: _ => return some (k, t)
  | _ => return none

/-- Reads the body of a loop. -/
def looped (body : Read Statement) : Read Statement := do
  let before := (← get).inLoop
  modify fun r => { r with inLoop := true }
  let s ← body
  modify fun r => { r with inLoop := before }
  return s

mutual

/-- Reads a statement. -/
def statement (fuel : Nat) : Read Statement :=
  match fuel with
  | 0 => refuse
  | fuel + 1 => do
      match ← peek with
      | some (.sign "\x7b") => block fuel
      | some (.sign ";") =>
          skip
          return .nothing
      | some (.word "if") =>
          skip
          demand "("
          let c ← term fuel true
          demand ")"
          skipLines
          let a ← statement fuel
          -- The other branch may stand behind an end.
          let before ← get
          skipEnds
          if ← takeWord "else" then
            skipLines
            return .choice c a (← statement fuel)
          set before
          return .choice c a .nothing
      | some (.word "while") =>
          skip
          demand "("
          let c ← term fuel true
          demand ")"
          if ← take ";" then return .repetition c .nothing .nothing
          skipLines
          return .repetition c .nothing (← looped (statement fuel))
      | some (.word "do") =>
          skip
          skipLines
          let body ← looped (statement fuel)
          skipEnds
          if !(← takeWord "while") then refuse
          demand "("
          let c ← term fuel true
          demand ")"
          ending
          return .repetitionOnce c body
      | some (.word "for") =>
          skip
          demand "("
          match ← keysNext with
          | some (k, t) =>
              let k ← variableOf k
              let t ← variableOf t
              skip
              skip
              skip
              skip
              skipLines
              return .overKeys k t (← looped (statement fuel))
          | none =>
              let first ← if ← isNext ";" then pure .nothing else simple fuel
              demand ";"
              skipLines
              let c ← if ← isNext ";" then pure (Term.number 1) else term fuel true
              demand ";"
              skipLines
              let step ← if ← isNext ")" then pure .nothing else simple fuel
              demand ")"
              if ← take ";" then return .sequence first (.repetition c step .nothing)
              skipLines
              return .sequence first (.repetition c step (← looped (statement fuel)))
      | some (.word "break") =>
          skip
          if !(← get).inLoop then refuseAs "break statement outside of loop"
          ending
          return .leave
      | some (.word "continue") =>
          skip
          if !(← get).inLoop then refuseAs "continue statement outside of loop"
          ending
          return .resume
      | some (.word "next") =>
          skip
          if !(← get).forRecords then refuseAs "improper use of next"
          ending
          return .next
      | some (.word "nextfile") =>
          skip
          if !(← get).forRecords then refuseAs "improper use of nextfile"
          ending
          return .nextFile
      | some (.word "exit") =>
          skip
          let e ← if ← atEnd then pure none else some <$> term fuel true
          ending
          return .exit e
      | some (.word "return") =>
          skip
          if !(← get).inFunction then refuseAs "return outside function body"
          let e ← if ← atEnd then pure none else some <$> term fuel true
          ending
          return .answer e
      | _ =>
          let s ← simple fuel
          ending
          return s

/-- Reads statements between braces. -/
def block (fuel : Nat) : Read Statement :=
  match fuel with
  | 0 => refuse
  | fuel + 1 => do
      demand "\x7b"
      blockRest fuel

/-- Reads statements up to a closing brace. -/
def blockRest (fuel : Nat) : Read Statement :=
  match fuel with
  | 0 => refuse
  | fuel + 1 => do
      skipLines
      if ← take "\x7d" then return .nothing
      if (← peek).isNone then
        let line := (← get).line
        throw (faultAt (line + 1) "missing \x7d near end of file".toList)
      let a ← statement fuel
      let b ← blockRest fuel
      return .sequence a b

end

/-- Reads the names between brackets. -/
def parameters : Nat → Read (List String)
  | 0 => refuse
  | fuel + 1 => do
      skipLines
      if ← take ")" then return []
      let s ← name
      skipLines
      if ← take "," then return s :: (← parameters fuel)
      demand ")"
      return [s]

/-- The name that stands twice among names, if there is one. -/
def twice? : List String → Option String
  | [] => none
  | s :: rest => (twice? rest).or (if rest.contains s then some s else none)

/-- Reads the rules and functions of a program. -/
def items : Nat → Nat → Program → Read Program
  | 0, _, _ => refuse
  | fuel + 1, size, p => do
      skipEnds
      modify fun r => { r with names := [], inFunction := false, forRecords := true }
      let body := fun (_ : Unit) => do
        skipLines
        block size
      let add := fun (pattern : Pattern) (s : Statement) =>
        items fuel size { p with rules := p.rules ++ [(pattern, s)] }
      match ← peek with
      | none => return p
      | some (.word "BEGIN") =>
          skip
          modify fun r => { r with forRecords := false }
          add .first (← body ())
      | some (.word "END") =>
          skip
          modify fun r => { r with forRecords := false }
          add .last (← body ())
      | some (.word s) =>
          if s == "function" then
            skip
            let f ← name
            demand "("
            let names ← parameters size
            if let some twice := twice? names then
              refuseAs (twice ++ " is duplicated in argument list")
            if p.functions.any (·.name == f) then refuseAs ("redefinition of " ++ f)
            modify fun r => { r with names, inFunction := true, forRecords := false }
            let b ← body ()
            items fuel size { p with functions := p.functions ++ [⟨f, names.length, b⟩] }
          else rule fuel size p
      | some (.sign "\x7b") => add .always (← block size)
      | _ => rule fuel size p
where
  /-- Reads a rule that begins with an expression. -/
  rule (fuel size : Nat) (p : Program) : Read Program := do
    let a ← term size true
    let pattern ← if ← take "," then do
        skipLines
        let b ← term size true
        let n := (← get).ranges
        modify fun r => { r with ranges := n + 1 }
        pure (Pattern.between a b n)
      else pure (.fits a)
    let s ← if ← isNext "\x7b" then block size else pure (.print [] none)
    items fuel size { p with rules := p.rules ++ [(pattern, s)] }

/-- The program that a text is. -/
def programOf (t : Text) : Except Fault Program := do
  let ts ← tokens (t.length + 1) 1 false t
  let size := 20 * ts.length + 40
  let (p, r) ← (items (ts.length + 2) size {}).run { left := ts }
  let last := t.foldl (fun n c => if c == '\n' then n + 1 else n) 2
  let faults := r.calls.flatMap fun (name, line, count) =>
    match p.functions.find? (·.name == name) with
    | none => faultAt last ("function ".toList ++ name.toList ++ " never defined".toList)
    | some f =>
        if f.size < count then
          faultAt line ("too many arguments in call to ".toList ++ name.toList)
        else []
  if faults.isEmpty then return p else throw faults

end Runbook.Shell.Scanning
