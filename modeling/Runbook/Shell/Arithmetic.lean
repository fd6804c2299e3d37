import Runbook.Shell.Stream

set_option autoImplicit false

/-! # Expressions

The expressions of the shell: signed numbers of 64 bits, variables, the operators of C and
assignments. A variable that is not set, or is empty, counts as zero; any other value must be a
number. Only the operand that is chosen is evaluated.
-/

namespace Runbook.Shell

/-- An operator with two operands that are both evaluated. -/
inductive BinaryOperator where
  | times
  | divide
  | rest
  | plus
  | minus
  | left
  | right
  | less
  | lessEqual
  | greater
  | greaterEqual
  | equal
  | unequal
  | bitAnd
  | bitXor
  | bitOr
  deriving DecidableEq, Repr

/-- An operator with one operand. -/
inductive UnaryOperator where
  | negative
  | logicalNot
  | bitNot
  deriving DecidableEq, Repr

/-- An expression. -/
inductive Expression where
  | number (n : Int64)
  | variable (name : Text)
  | unary (op : UnaryOperator) (a : Expression)
  | binary (op : BinaryOperator) (a b : Expression)
  | conjunction (a b : Expression)
  | disjunction (a b : Expression)
  | conditional (a b c : Expression)
  /-- The variable is set to the value, or to what an operator makes of its own value and it. -/
  | assignment (name : Text) (op : Option BinaryOperator) (a : Expression)
  deriving Repr

/-- Why a text is no expression. -/
inductive ExpressionFault where
  | noPrimary
  | noBracket
  | noColon
  | trailing
  | divisionByZero
  deriving DecidableEq, Repr

/-- The fault in words. -/
def ExpressionFault.message : ExpressionFault → String
  | .noPrimary => "expecting primary"
  | .noBracket => "expecting ')'"
  | .noColon => "expecting ':'"
  | .trailing => "expecting EOF"
  | .divisionByZero => "division by zero"

/-! ## Numbers -/

/-- The value of a digit, or of a letter as a digit. -/
def digitOf (c : Char) : Nat :=
  if c.isDigit then c.toNat - '0'.toNat else c.toLower.toNat - 'a'.toNat + 10

/-- Whether a character is a digit of a base. -/
def isDigitIn (base : Nat) (c : Char) : Bool := c.isAlphanum && digitOf c < base

/-- The number that digits denote in a base. -/
def inBase (base : Nat) (digits : Text) : Nat :=
  digits.foldl (fun n c => n * base + digitOf c) 0

/-- The digits of the number that a text begins with, its base and the rest: hexadecimal behind
`0x`, octal behind `0`, else decimal. -/
def takeNumeral (t : Text) : Text × Nat × Text :=
  let read := fun (base : Nat) (t : Text) =>
    (t.takeWhile (isDigitIn base), base, t.dropWhile (isDigitIn base))
  match t with
  | '0' :: x :: c :: rest =>
      if (x == 'x' || x == 'X') && isDigitIn 16 c then read 16 (c :: rest) else read 8 t
  | '0' :: _ => read 8 t
  | _ => read 10 t

/-- The greatest number. -/
def greatest : Nat := 9223372036854775807

/-- White space before and behind numbers. -/
def isSpace (c : Char) : Bool := c == ' ' || (0x09 ≤ c.toNat && c.toNat ≤ 0x0d)

/-- A sign before a number, and the rest. -/
def takeSign (t : Text) : Bool × Text :=
  match t with
  | '-' :: rest => (true, rest)
  | '+' :: rest => (false, rest)
  | _ => (false, t)

/-- The number that the whole of a text denotes, in base ten if `decimal`; none if it denotes
none, or one that is too large. -/
def numberOf? (decimal : Bool) (t : Text) : Option Int :=
  let (negative, body) := takeSign (t.dropWhile isSpace)
  let (digits, base, rest) :=
    if decimal then (body.takeWhile Char.isDigit, 10, body.dropWhile Char.isDigit)
    else takeNumeral body
  let n := inBase base digits
  let least := if negative then greatest + 1 else greatest
  if digits.isEmpty || !rest.all isSpace || least < n then none
  else some (if negative then -(n : Int) else n)

/-- The value of a variable in an expression. -/
def variableNumber (t : Text) : Action Int64 :=
  if t.all isSpace then return 0
  else
    match numberOf? false t with
    | some n => return Int64.ofInt n
    | none => fail ("Illegal number: ".toList ++ t)

/-! ## Reading -/

/-- The signs of operators with two operands, by rank; those of a rank that are beginnings of
others come later. -/
def signsOf (rank : Nat) : List (String × BinaryOperator) :=
  match rank with
  | 0 => [("|", .bitOr)]
  | 1 => [("^", .bitXor)]
  | 2 => [("&", .bitAnd)]
  | 3 => [("==", .equal), ("!=", .unequal)]
  | 4 => [("<=", .lessEqual), (">=", .greaterEqual), ("<", .less), (">", .greater)]
  | 5 => [("<<", .left), (">>", .right)]
  | 6 => [("+", .plus), ("-", .minus)]
  | _ => [("*", .times), ("/", .divide), ("%", .rest)]

/-- All signs that stand between operands, the longer ones first. -/
def allSigns : List String := ["<<=", ">>=", "<=", ">=", "==", "!=", "&&", "||", "<<", ">>",
  "*=", "/=", "%=", "+=", "-=", "&=", "^=", "|=", "*", "/", "%", "+", "-", "<", ">", "&", "^",
  "|", "=", "?", ":", "(", ")", "!", "~"]

/-- The signs of assignments. -/
def assignmentSigns : List (String × Option BinaryOperator) := [("=", none), ("*=", some .times),
  ("/=", some .divide), ("%=", some .rest), ("+=", some .plus), ("-=", some .minus),
  ("<<=", some .left), (">>=", some .right), ("&=", some .bitAnd), ("^=", some .bitXor),
  ("|=", some .bitOr)]

/-- The sign that a text begins with, and what follows it. -/
def takeSign? (t : Text) : Option (String × Text) :=
  let t := t.dropWhile isSpace
  (allSigns.find? fun s => s.toList.isPrefixOf t).map fun s => (s, t.drop s.length)

mutual

/-- Reads an expression that may be an assignment. -/
def readAssignment (fuel : Nat) (t : Text) : Except ExpressionFault (Expression × Text) :=
  match fuel with
  | 0 => .error .noPrimary
  | fuel + 1 =>
      let t := t.dropWhile isSpace
      let name := if t.head?.any isNameStart then t.takeWhile isNameRest else []
      match takeSign? (t.drop name.length) with
      | some (sign, rest) =>
          match if name.isEmpty then none else assignmentSigns.find? (·.1 == sign) with
          | some (_, op) => do
              let (a, rest) ← readAssignment fuel rest
              .ok (.assignment name op a, rest)
          | none => readConditional fuel t
      | none => readConditional fuel t

/-- Reads an expression that may be a choice between two others. -/
def readConditional (fuel : Nat) (t : Text) : Except ExpressionFault (Expression × Text) :=
  match fuel with
  | 0 => .error .noPrimary
  | fuel + 1 => do
      let (a, rest) ← readDisjunction fuel t
      match takeSign? rest with
      | some ("?", rest) =>
          let (b, rest) ← readAssignment fuel rest
          match takeSign? rest with
          | some (":", rest) =>
              let (c, rest) ← readConditional fuel rest
              .ok (.conditional a b c, rest)
          | _ => .error .noColon
      | _ => .ok (a, rest)

/-- Reads an expression that may be a disjunction. -/
def readDisjunction (fuel : Nat) (t : Text) : Except ExpressionFault (Expression × Text) :=
  match fuel with
  | 0 => .error .noPrimary
  | fuel + 1 => do
      let (a, rest) ← readConjunction fuel t
      match takeSign? rest with
      | some ("||", rest) =>
          let (b, rest) ← readDisjunction fuel rest
          .ok (.disjunction a b, rest)
      | _ => .ok (a, rest)

/-- Reads an expression that may be a conjunction. -/
def readConjunction (fuel : Nat) (t : Text) : Except ExpressionFault (Expression × Text) :=
  match fuel with
  | 0 => .error .noPrimary
  | fuel + 1 => do
      let (a, rest) ← readBinary fuel 0 t
      match takeSign? rest with
      | some ("&&", rest) =>
          let (b, rest) ← readConjunction fuel rest
          .ok (.conjunction a b, rest)
      | _ => .ok (a, rest)

/-- Reads an expression of operators of a rank or higher. -/
def readBinary (fuel rank : Nat) (t : Text) : Except ExpressionFault (Expression × Text) :=
  match fuel with
  | 0 => .error .noPrimary
  | fuel + 1 =>
      if 7 < rank then readPrimary fuel t
      else do
        let (a, rest) ← readBinary fuel (rank + 1) t
        readBinaryRest fuel rank a rest

/-- Reads on behind the first operand of operators of a rank. -/
def readBinaryRest (fuel rank : Nat) (a : Expression) (t : Text) :
    Except ExpressionFault (Expression × Text) :=
  match fuel with
  | 0 => .error .noPrimary
  | fuel + 1 =>
      match takeSign? t with
      | some (sign, rest) =>
          match (signsOf rank).find? (·.1 == sign) with
          | some (_, op) => do
              let (b, rest) ← readBinary fuel (rank + 1) rest
              readBinaryRest fuel rank (.binary op a b) rest
          | none => .ok (a, t)
      | none => .ok (a, t)

/-- Reads an operand. -/
def readPrimary (fuel : Nat) (t : Text) : Except ExpressionFault (Expression × Text) :=
  match fuel with
  | 0 => .error .noPrimary
  | fuel + 1 =>
      let unary := fun (op : UnaryOperator) (rest : Text) => do
        let (a, rest) ← readPrimary fuel rest
        .ok (.unary op a, rest)
      let t := t.dropWhile isSpace
      match takeSign? t with
      | some ("(", rest) => do
          let (a, rest) ← readAssignment fuel rest
          match takeSign? rest with
          | some (")", rest) => .ok (a, rest)
          | _ => .error .noBracket
      | some ("+", rest) => readPrimary fuel rest
      | some ("-", rest) => unary .negative rest
      | some ("!", rest) => unary .logicalNot rest
      | some ("~", rest) => unary .bitNot rest
      | some _ => .error .noPrimary
      | none =>
          match t with
          | c :: _ =>
              if c.isDigit then
                let (digits, base, rest) := takeNumeral t
                .ok (.number (Int64.ofNat (min (inBase base digits) greatest)), rest)
              else if isNameStart c then
                .ok (.variable (t.takeWhile isNameRest), t.dropWhile isNameRest)
              else .error .noPrimary
          | [] => .error .noPrimary

end

/-- The expression that the whole of a text is. -/
def expressionOf (t : Text) : Except ExpressionFault Expression := do
  let (e, rest) ← readAssignment (16 * t.length + 32) t
  if rest.all isSpace then .ok e else .error .trailing

/-! ## Evaluating -/

/-- The number that a truth value counts as. -/
def truth (b : Bool) : Int64 := if b then 1 else 0

/-- The value of an operator with two operands; none for a division by zero. -/
def BinaryOperator.apply (op : BinaryOperator) (a b : Int64) : Option Int64 :=
  match op with
  | times => some (a * b)
  | divide => if b == 0 || (a == Int64.minValue && b == -1) then none else some (a / b)
  | rest => if b == 0 || (a == Int64.minValue && b == -1) then none else some (a % b)
  | plus => some (a + b)
  | minus => some (a - b)
  | left => some (a <<< b)
  | right => some (a >>> b)
  | less => some (truth (decide (a < b)))
  | lessEqual => some (truth (decide (a ≤ b)))
  | greater => some (truth (decide (b < a)))
  | greaterEqual => some (truth (decide (b ≤ a)))
  | equal => some (truth (a == b))
  | unequal => some (truth (a != b))
  | bitAnd => some (a &&& b)
  | bitXor => some (a ^^^ b)
  | bitOr => some (a ||| b)

/-- Ends the shell because of the expression `source`. -/
def failExpression {α : Type} (source : Text) (f : ExpressionFault) : Action α :=
  fail ("arithmetic expression: ".toList ++ f.message.toList ++ ": \"".toList ++ source ++ ['"'])

/-- The value of an operator, or the end of the shell. -/
def applyOrFail (source : Text) (op : BinaryOperator) (a b : Int64) : Action Int64 :=
  match op.apply a b with
  | some n => return n
  | none => failExpression source .divisionByZero

/-- The value of a variable in an expression. -/
def lookUp (name : Text) : Action Int64 := do
  variableNumber ((((← self).find? name).bind (·.value)).getD [])

/-- The value of an expression, part of the expression `source`. -/
def evaluate (source : Text) : Expression → Action Int64
  | .number n => return n
  | .variable name => lookUp name
  | .unary op a => do
      let n ← evaluate source a
      return match op with
        | .negative => -n
        | .logicalNot => truth (n == 0)
        | .bitNot => ~~~n
  | .binary op a b => do
      let m ← evaluate source a
      let n ← evaluate source b
      applyOrFail source op m n
  | .conjunction a b => do
      if (← evaluate source a) == 0 then return 0
      return truth ((← evaluate source b) != 0)
  | .disjunction a b => do
      if (← evaluate source a) != 0 then return 1
      return truth ((← evaluate source b) != 0)
  | .conditional a b c => do
      if (← evaluate source a) != 0 then evaluate source b else evaluate source c
  | .assignment name op a => do
      let n ← evaluate source a
      let n ← match op with
        | some op => applyOrFail source op (← lookUp name) n
        | none => pure n
      assign name (Text.ofInt n.toInt) false
      return n

/-- The value of the expression that a text is. -/
def calculate (t : Text) : Action Int := do
  match expressionOf t with
  | .ok e => return (← evaluate t e).toInt
  | .error f => failExpression t f

end Runbook.Shell
