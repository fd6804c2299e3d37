import Runbook.Shell.Calendar
import Runbook.Shell.Scanning.Machine

set_option autoImplicit false

/-! # Running programs that scan records

Expressions are evaluated and statements are run on the machine. The rules of a program are followed
for each record, those for the beginning and the end before and behind them.
-/

namespace Runbook.Shell.Scanning

/-- What a program runs in: its functions, and how a shell of a name runs a command. -/
structure Context where
  functions : Std.HashMap String Function
  shell : Text → Text → Action Nat

/-! ## Functions of the language -/

/-- The width or the precision that a format asks for at the beginning of a text: it, what stands
behind it, and the values that are left. A star takes it from the values. -/
def takeMeasure : Text → List Value → Option (Int × Text × List Value)
  | '*' :: more, v :: vs => some ((wholeOf? v.asNumber).getD 0, more, vs)
  | '*' :: _, [] => none
  | t, vs =>
      let digits := t.takeWhile Char.isDigit
      some (inBase 10 digits, t.drop digits.length, vs)

/-- A value converted, if there is such a conversion. Numbers become texts in the format
`values`. -/
def converted? (values : Text) (c : Conversion) (v : Value) : Option Text :=
  if c.kind == 's' then some (c.text (v.asText values))
  else if c.kind == 'c' then
    let code := match v with
      | .number x => some x
      | .input t => likeNumber? t
      | _ => none
    some (c.fill (match code with
      | some x => [Char.ofNat (((wholeOf? x).getD 0) % 256).toNat]
      | none => [((v.asText values).head?).getD '\x00']))
  else if "diouxX".toList.contains c.kind then some (wholeConverted c v.asNumber)
  else if "aAeEfFgG".toList.contains c.kind then some (realConverted c v.asNumber)
  else none

/-- What is made of the rest of a format with the values that are left, of which so many have been
used, and why it could not be made to the end. -/
def formatted (values : Text) : Nat → Nat → Text → List Value → Text × Option FormatFault
  | 0, _, _, _ => ([], none)
  | _, _, [], _ => ([], none)
  | fuel + 1, used, '%' :: '%' :: rest, vs =>
      let (t, fault) := formatted values fuel used rest vs
      ('%' :: t, fault)
  | fuel + 1, used, '%' :: rest, vs =>
      let flags := rest.takeWhile "#-+ 0".toList.contains
      match takeMeasure (rest.drop flags.length) vs with
      | none => ([], some .few)
      | some (width, after, vs) =>
          let precise : Option (Option Int × Text × List Value) := match after with
            | '.' :: more => (takeMeasure more vs).map fun (n, more) => (some n, more)
            | _ => some (none, after, vs)
          match precise with
          | none => ([], some .few)
          | some (precision, after, vs) =>
              let precision := (precision.filter (0 ≤ ·)).map Int.toNat
              match after.dropWhile "lhqLjzt".toList.contains, vs with
              | [], _ => ('%' :: rest, none)
              | _, [] => ([], some .few)
              | kind :: after, v :: vs =>
                  let flags := if width < 0 then '-' :: flags else flags
                  match converted? values ⟨flags, width.natAbs, precision, kind⟩ v with
                  | none => ([], some (.improper (used + 1)))
                  | some t =>
                      let (u, fault) := formatted values fuel (used + 1) after vs
                      (t ++ u, fault)
  | fuel + 1, used, c :: rest, vs =>
      let (t, fault) := formatted values fuel used rest vs
      (c :: t, fault)

/-- The values in a format. What has been made of them before a fault is handed over. -/
def format (name : String) (partly : Text → Step Unit) (vs : List Value) : Step Text := do
  let values := (← machine).format
  let f := (vs.head?.getD .unset).asText values
  let (t, fault) := formatted values (f.length + 1) 0 f (vs.drop 1)
  let place := name.toList ++ "(\"".toList ++ f ++ "\")".toList
  match fault with
  | none => return t
  | some .few =>
      partly t
      stopAtRecord ("not enough arguments passed to ".toList ++ place)
  | some (.improper n) =>
      partly t
      stopAtRecord ("improper conversion(number ".toList ++ Text.ofNat n ++ ") in ".toList ++ place)

/-- What is put in the place of a match. -/
def replacement (matched : Text) : Nat → Text → Text
  | 0, _ => []
  | _, [] => []
  | fuel + 1, '\\' :: '\\' :: rest => '\\' :: replacement matched fuel rest
  | fuel + 1, '\\' :: '&' :: rest => '&' :: replacement matched fuel rest
  | fuel + 1, '&' :: rest => matched ++ replacement matched fuel rest
  | fuel + 1, c :: rest => c :: replacement matched fuel rest

/-- A text with matches replaced from a place on, and how many there were. An empty match does not
count behind another one. -/
def substituted (r : Regular) (s : Regular.Subject) (new : Text) (all : Bool) :
    Nat → Nat → Bool → Text × Nat
  | 0, place, _ => (s.between place s.bytes.size, 0)
  | fuel + 1, place, behind =>
      if s.bytes.size < place then ([], 0)
      else
        match Regular.find? r s place fun m => !(behind && m.first == place && m.last == place) with
        | none => (s.between place s.bytes.size, 0)
        | some m =>
            let put := s.between place m.first ++
              replacement (s.between m.first m.last) (new.length + 1) new
            if !all then (put ++ s.between m.last s.bytes.size, 1)
            else if m.first == m.last then
              let (rest, n) := substituted r s new all fuel (m.last + 1) false
              (put ++ s.between m.last (m.last + 1) ++ rest, n + 1)
            else
              let (rest, n) := substituted r s new all fuel m.last true
              (put ++ rest, n + 1)

/-- The part of a text from a place on, of a length if there is one. -/
def substring (t : Text) (first : Float) (length : Option Float) : Text :=
  let first := (wholeOf? first).getD 0
  match length with
  | none => t.drop (first - 1).toNat
  | some n =>
      let n := (wholeOf? n).getD (if n > 0 then t.length else 0)
      let n := if first < 0 then n - first else n
      (t.drop (first - 1).toNat).take n.toNat

/-- Where a text is found in another one, counted from one; zero if it is not. -/
def indexOf (part : Text) : Nat → Text → Nat
  | n, [] => if part.isEmpty then n else 0
  | n, c :: rest => if part.isPrefixOf (c :: rest) then n else indexOf part (n + 1) rest

/-- The moment that six numbers in a text are. -/
def momentOf? (t : Text) : Option Int :=
  match (blankParts (t.length + 1) t).map numberAtStart with
  | y :: mo :: d :: h :: mi :: s :: _ =>
      let whole := fun (x : Float) => (wholeOf? x).getD 0
      let months := whole y * 12 + whole mo - 1
      let day := Date.dayNumber (months.fdiv 12) ((months.fmod 12).toNat + 1) (whole d)
      some (day * 86400 + whole h * 3600 + whole mi * 60 + whole s)
  | _ => none

/-! ## Expressions -/

/-- The value of an operator. -/
def Operator.apply (op : Operator) (a b : Value) : Step Value := do
  let real := fun (f : Float → Float → Float) => Value.number (f a.asNumber b.asNumber)
  match op with
  | .plus => return real (· + ·)
  | .minus => return real (· - ·)
  | .times => return real (· * ·)
  | .divided => return real (· / ·)
  | .remainder => return real Scanning.remainder
  | .power => return real (· ^ ·)
  | .joined =>
      let f := (← machine).format
      return .text (a.asText f ++ b.asText f)
  | op => return .number (if a.compares (← machine).format op b then 1 else 0)

/-- The value of a truth. -/
def truthOf (b : Bool) : Value := .number (if b then 1 else 0)

mutual

/-- The value of an expression. -/
def evaluate (k : Context) (fuel : Nat) (e : Term) : Step Value :=
  match fuel with
  | 0 => stopWith "too many steps".toList
  | fuel + 1 =>
      match e with
      | .number x => return .number x
      | .text t => return .text t
      | .regular t => do
          let m ← machine
          let s : Regular.Subject := ⟨(m.record.asText m.format).toArray, false⟩
          return truthOf (Regular.find? (← regularOf t) s 0 fun _ => true).isSome
      | .held v => valueOf v
      | .element v key => do
          let key ← keyOf k fuel key
          modifyTable v fun t => if t.has key then t.touched key true else t.insert key .unset
          return (((← tableOf v).1).get? key).getD .unset
      | .field e => do part (← partNumber (← evaluate k fuel e))
      | .conditional c a b => do
          if (← evaluate k fuel c).isTrue then evaluate k fuel a else evaluate k fuel b
      | .either a b => do
          if (← evaluate k fuel a).isTrue then return truthOf true
          return truthOf (← evaluate k fuel b).isTrue
      | .both a b => do
          if !(← evaluate k fuel a).isTrue then return truthOf false
          return truthOf (← evaluate k fuel b).isTrue
      | .negation a => do return truthOf !(← evaluate k fuel a).isTrue
      | .minus a => do return .number (-(← evaluate k fuel a).asNumber)
      | .plus a => do return .number (← evaluate k fuel a).asNumber
      | .binary op a b => do
          let a ← evaluate k fuel a
          let b ← evaluate k fuel b
          op.apply a b
      | .matches wanted a pattern => do
          let m := (← machine).format
          let t := (← evaluate k fuel a).asText m
          let r ← patternOf k fuel pattern
          let found := (Regular.find? r ⟨t.toArray, false⟩ 0 fun _ => true).isSome
          return truthOf (found == wanted)
      | .member v key => do
          let key ← keyOf k fuel key
          let (t, _) ← tableOf v
          modifyTable v (·.touched key false)
          return truthOf (t.has key)
      | .assign op target value => do
          let place ← placeOf k fuel target
          let v ← evaluate k fuel value
          let v ← match op with
            | none => pure v
            | some op => do op.apply (← read place) v
          store place v
          return v
      | .step up before target => do
          let place ← placeOf k fuel target
          let old := (← read place).asNumber
          let new := if up then old + 1 else old - 1
          store place (.number new)
          return .number (if before then new else old)
      | .several es => do
          match es with
          | [e] => evaluate k fuel e
          | _ => stopWith "syntax error at or near )".toList
      | .next source name target => take k fuel source name target
      | .call name arguments => call k fuel name arguments
      | .builtin f arguments => builtin k fuel f arguments
where
  /-- The value at a place. -/
  read : Variable × Option Key ⊕ Nat → Step Value
    | .inl (v, none) => valueOf v
    | .inl (v, some key) => do return (((← tableOf v).1).get? key).getD .unset
    | .inr n => part n

/-- Sets what is at a place. -/
def store (place : Variable × Option Key ⊕ Nat) (v : Value) : Step Unit :=
  match place with
  | .inl (x, none) => setValue x v
  | .inl (x, some key) => modifyTable x (·.insert key v)
  | .inr n => setPart n v

/-- The place that an expression names to which something is assigned. -/
def placeOf (k : Context) (fuel : Nat) (e : Term) : Step (Variable × Option Key ⊕ Nat) :=
  match fuel with
  | 0 => stopWith "too many steps".toList
  | fuel + 1 =>
      match e with
      | .held v => return .inl (v, none)
      | .element v key => do return .inl (v, some (← keyOf k fuel key))
      | .field e => do return .inr (← partNumber (← evaluate k fuel e))
      | .several [e] => placeOf k fuel e
      | _ => stopWith "syntax error at or near =".toList

/-- The key that an expression gives. -/
def keyOf (k : Context) (fuel : Nat) (e : Term) : Step Key :=
  match fuel with
  | 0 => stopWith "too many steps".toList
  | fuel + 1 => do return (← evaluate k fuel e).asKey (← machine).format

/-- The regular expression that an expression gives. -/
def patternOf (k : Context) (fuel : Nat) (e : Term) : Step Regular :=
  match fuel with
  | 0 => stopWith "too many steps".toList
  | fuel + 1 =>
      match e with
      | .regular t => regularOf t
      | e => do
          let m := (← machine).format
          regularOf ((← evaluate k fuel e).asText m)

/-- Takes a record that is asked for, and tells whether there was one. -/
def take (k : Context) (fuel : Nat) (source : Source) (name target : Option Term) : Step Value :=
  match fuel with
  | 0 => stopWith "too many steps".toList
  | fuel + 1 => do
      let place ← match target with
        | some t => some <$> placeOf k fuel t
        | none => pure none
      let put := fun (t : Text) => do
        match place with
        | some p => store p (.input t)
        | none => setRecord (.input t)
      match source, name with
      | .main, _ =>
          match ← nextMain pieceBound with
          | some t =>
              put t
              countRecord "NR"
              countRecord "FNR"
              return .number 1
          | none => return .number 0
      | s, some name =>
          let name := (← evaluate k fuel name).asText (← machine).format
          match ← inputFrom k.shell (s == .command) name with
          | none => return .number (-1)
          | some i =>
              let (r, i) ← i.next
              keepInput i
              match r with
              | some t =>
                  put t
                  return .number 1
              | none => return .number 0
      | _, none => return .number (-1)

/-- Calls a function of the program. -/
def call (k : Context) (fuel : Nat) (name : String) (arguments : List Term) : Step Value :=
  match fuel with
  | 0 => stopWith "too many steps".toList
  | fuel + 1 => do
      match k.functions[name]? with
      | none => stopWith ("function ".toList ++ name.toList ++ " never defined".toList)
      | some f =>
          let cells ← arguments.mapM fun e => do
            match e with
            | .held v =>
                let m ← machine
                let (c, place) := m.cell linkBound (m.placed v)
                match c, v with
                | _, .shared "NF" => return Cell.one (← valueOf v)
                | .one a, _ => return Cell.one a
                | _, _ => return Cell.linked place
            | e => return Cell.one (← evaluate k fuel e)
          let m ← machine
          let before := (m.base, m.own.size)
          let cells := (cells.take f.size).toArray
          let cells := cells ++ Array.replicate (f.size - cells.size) Cell.unset
          modify fun m => { m with base := m.own.size, own := m.own ++ cells }
          let finish : Step Unit :=
            modify fun m => { m with base := before.1, own := m.own.extract 0 before.2 }
          let result ← tryCatch (do
              run k fuel f.body
              return Value.unset) fun stop =>
            match stop with
            | .answer v => return v
            | stop => do
                finish
                throw stop
          finish
          return result

/-- Calls a function of the language. -/
def builtin (k : Context) (fuel : Nat) (f : Builtin) (arguments : List Term) : Step Value :=
  match fuel with
  | 0 => stopWith "too many steps".toList
  | fuel + 1 => do
      let values := (← machine).format
      let texts := fun (es : List Term) => es.mapM fun e => do
        return (← evaluate k fuel e).asText (← machine).format
      let numbers := fun (es : List Term) => es.mapM fun e => do
        return (← evaluate k fuel e).asNumber
      let wrong := fun (name : String) =>
        (stopWith ("wrong number of arguments in call to ".toList ++ name.toList) : Step Value)
      let real := fun (name : String) (g : Float → Float) => do
        match ← numbers arguments with
        | [x] => return Value.number (g x)
        | _ => wrong name
      match f, arguments with
      | .length, [] =>
          let m ← machine
          return .number (ofWhole (m.record.asText m.format).length)
      | .length, [.held v] =>
          let m ← machine
          match (m.cell linkBound (m.placed v)).1 with
          | .many t => return .number (ofWhole t.size)
          | _ => return .number (ofWhole ((← valueOf v).asText values).length)
      | .length, [e] => return .number (ofWhole ((← evaluate k fuel e).asText values).length)
      | .length, _ => wrong "length"
      | .substring, [e, a] =>
          let t := (← evaluate k fuel e).asText values
          return .text (substring t (← evaluate k fuel a).asNumber none)
      | .substring, [e, a, b] =>
          let t := (← evaluate k fuel e).asText values
          let a := (← evaluate k fuel a).asNumber
          return .text (substring t a (some (← evaluate k fuel b).asNumber))
      | .substring, _ => wrong "substr"
      | .index, es =>
          match ← texts es with
          | [t, part] => return .number (ofWhole (indexOf part 1 t))
          | _ => wrong "index"
      | .split, e :: .held v :: rest =>
          let t := (← evaluate k fuel e).asText values
          let separator ← match rest with
            | [] => separatorOf ((← machine).text "FS")
            | .regular r :: _ => .regular <$> regularOf r
            | s :: _ => separatorOf ((← evaluate k fuel s).asText values)
          let parts := separator.parts t
          modifyTable v fun _ => Table.ofList (parts.map Value.input)
          return .number (ofWhole parts.length)
      | .split, _ => wrong "split"
      | .substitute all, r :: new :: rest =>
          let r ← patternOf k fuel r
          let new := (← evaluate k fuel new).asText values
          let target := rest.head?.getD (.field (.number 0))
          let old := (← evaluate k fuel target).asText values
          let (t, n) := substituted r ⟨old.toArray, false⟩ new all (old.length + 2) 0 false
          if n != 0 then
            if (match target with
              | .several [e] => e.isTarget
              | e => e.isTarget) then
              store (← placeOf k fuel target) (.text t)
          return .number (ofWhole n)
      | .substitute _, _ => wrong "sub"
      | .matching, [e, r] =>
          let t := (← evaluate k fuel e).asText values
          let r ← patternOf k fuel r
          let (first, length) := match Regular.find? r ⟨t.toArray, false⟩ 0 fun _ => true with
            | some m => ((m.first + 1 : Nat), ((m.last - m.first : Nat) : Int))
            | none => (0, -1)
          setNumber "RSTART" (ofWhole first)
          setNumber "RLENGTH" (ofWhole length)
          return .number (ofWhole first)
      | .matching, _ => wrong "match"
      | .format, es =>
          let vs ← es.mapM (evaluate k fuel)
          return .text (← format "sprintf" (fun _ => pure ()) vs)
      | .lower, es => return .text (((← texts es).head?.getD []).map Char.toLower)
      | .upper, es => return .text (((← texts es).head?.getD []).map Char.toUpper)
      | .sine, _ => real "sin" Float.sin
      | .cosine, _ => real "cos" Float.cos
      | .exponential, _ => real "exp" Float.exp
      | .logarithm, _ => real "log" Float.log
      | .squareRoot, _ => real "sqrt" Float.sqrt
      | .integer, _ => real "int" fun x => (((wholeOf? x).map ofWhole).getD x)
      | .arcTangent, es =>
          match ← numbers es with
          | [y, x] => return .number (Float.atan2 y x)
          | _ => wrong "atan2"
      | .chance, _ =>
          let n := ((← machine).chance * 1103515245 + 12345) % 2147483648
          modify fun m => { m with chance := n }
          return .number (ofWhole n / 2147483648)
      | .seed, es =>
          let old := (← machine).seed
          let new ← match es with
            | [] => do pure (ofWhole ((← act clock) / 1000000 : Nat))
            | e :: _ => do pure (← evaluate k fuel e).asNumber
          modify fun m => { m with seed := new, chance := ((wholeOf? new).getD 0).natAbs }
          return .number old
      | .system, es =>
          let t := (← texts es).head?.getD []
          flushAll
          let shell := k.shell
          let ending ← act (do
            let run : Action Unit := do throw (.exit (← shell "sh".toList t))
            awaitEnd (← start (fun p => { p with
              streams := p.streams.filter (·.1 < operandStream) }) run))
          return .number (ofWhole (statusOf ending))
      | .close, es =>
          let name := (← texts es).head?.getD []
          let m ← machine
          let outputs := m.outputs.filter (·.name == name)
          let inputs := m.inputs.filter (·.name == name)
          modify fun m => { m with
            outputs := m.outputs.filter (·.name != name)
            inputs := m.inputs.filter (·.name != name) }
          let mut status : Int := -1
          for o in outputs do status := (← closeOutput o)
          for i in inputs do status := (← closeInput i)
          return .number (ofWhole status)
      | .flush, _ =>
          flushAll
          return .number 0
      | .now, _ => return .number (ofWhole ((← act clock) / 1000000 : Nat))
      | .dateText, es =>
          let f ← match es with
            | [] => pure "%c".toList
            | e :: _ => do pure ((← evaluate k fuel e).asText values)
          let seconds ← match es.drop 1 with
            | [] => do pure (((← act clock) / 1000000 : Nat) : Int)
            | e :: _ => do pure ((wholeOf? (← evaluate k fuel e).asNumber).getD 0)
          return .text ((Date.ofMoment (seconds * 1000000)).formatted (f.length + 64) f)
      | .dateMoment, es =>
          let t := (← texts es).head?.getD []
          return .number (((momentOf? t).map ofWhole).getD (-1))

/-- Runs a statement. -/
def run (k : Context) (fuel : Nat) (s : Statement) : Step Unit :=
  match fuel with
  | 0 => stopWith "too many steps".toList
  | fuel + 1 =>
      match s with
      | .nothing => return
      | .evaluate e => do
          let _ ← evaluate k fuel e
      | .print es target => do
          let m ← machine
          let f := m.text "OFMT"
          let shown ← match es with
            | [] => pure [m.record.asText f]
            | es => es.mapM fun e => do return (← evaluate k fuel e).asText f
          let m ← machine
          let t := Text.join (m.text "OFS") shown ++ m.text "ORS"
          printTo k.shell (← destination k fuel target) t
      | .printFormat es target => do
          let vs ← es.mapM (evaluate k fuel)
          let place ← destination k fuel target
          printTo k.shell place (← format "printf" (printTo k.shell place) vs)
      | .sequence a b => do
          run k fuel a
          run k fuel b
      | .choice c a b => do
          if (← evaluate k fuel c).isTrue then run k fuel a else run k fuel b
      | .repetition c step body => do
          if (← evaluate k fuel c).isTrue then
            if ← turn k fuel body then
              run k fuel step
              run k fuel (.repetition c step body)
      | .repetitionOnce c body => do
          if ← turn k fuel body then
            if (← evaluate k fuel c).isTrue then run k fuel (.repetitionOnce c body)
      | .overKeys target table body => do
          let (t, place) ← tableOf table
          let (keys, t) := t.keys
          modify fun m => m.setCell place (.many t)
          eachKey k fuel target keys body
      | .next => throw .next
      | .nextFile => throw .nextFile
      | .exit e => do
          if let some e := e then
            let n := (wholeOf? (← evaluate k fuel e).asNumber).getD 0
            modify fun m => { m with status := (n % 256).toNat }
          throw .exit
      | .answer e => do
          match e with
          | some e => throw (.answer (← evaluate k fuel e))
          | none => throw (.answer .unset)
      | .leave => throw .leave
      | .resume => throw .resume
      | .delete v none => modifyTable v fun _ => Table.empty
      | .delete v (some key) => do
          let key ← keyOf k fuel key
          modifyTable v (·.erase key)

/-- Runs the body of a loop once, and says whether the loop goes on. -/
def turn (k : Context) (fuel : Nat) (body : Statement) : Step Bool :=
  match fuel with
  | 0 => stopWith "too many steps".toList
  | fuel + 1 =>
      tryCatch (do
        run k fuel body
        return true) fun stop =>
        match stop with
        | .leave => return false
        | .resume => return true
        | stop => throw stop

/-- Runs the body of a loop with each of some keys. -/
def eachKey (k : Context) (fuel : Nat) (target : Variable) (keys : List Text) (body : Statement) :
    Step Unit :=
  match fuel, keys with
  | 0, _ => stopWith "too many steps".toList
  | _, [] => return
  | fuel + 1, key :: rest => do
      setValue target (.text key)
      if ← turn k fuel body then eachKey k fuel target rest body

/-- Where something is printed. -/
def destination (k : Context) (fuel : Nat) (target : Option (Destination × Term)) :
    Step (Option (Destination × Text)) :=
  match fuel with
  | 0 => stopWith "too many steps".toList
  | fuel + 1 => do
      match target with
      | none => return none
      | some (d, e) => return some (d, (← evaluate k fuel e).asText (← machine).format)

end

/-! ## Rules -/

/-- How many steps deep a program may go. -/
def depthBound : Nat := 1000000000

/-- Follows the rules for a record. -/
def follow (k : Context) (rules : List (Pattern × Statement)) : Step Unit :=
  match rules with
  | [] => return
  | (pattern, body) :: rest => do
      let fits := fun (e : Term) => do return (← evaluate k depthBound e).isTrue
      let applies ← match pattern with
        | .always => pure true
        | .fits e => fits e
        | .between a b n => do
            let begun ← if (← machine).ranges.contains n then pure true else fits a
            if begun then
              let finishes ← fits b
              modify fun m => { m with
                ranges := (if finishes then [] else [n]) ++ m.ranges.filter (· != n) }
            pure begun
        | _ => pure false
      if applies then run k depthBound body
      follow k rest

/-- Follows the rules for all records. -/
def followAll (k : Context) (rules : List (Pattern × Statement)) : Nat → Step Unit
  | 0 => return
  | fuel + 1 => do
      match ← nextMain pieceBound with
      | none => return
      | some t =>
          setRecord (.input t)
          countRecord "NR"
          countRecord "FNR"
          tryCatch (follow k rules) fun stop =>
            match stop with
            | .next => return
            | .nextFile => do
                if let some i := (← machine).main then act (closeOperand i.stream)
                modify fun m => { m with main := none }
            | stop => throw stop
          followAll k rules fuel

/-- Runs a program. -/
def runProgram (k : Context) (p : Program) : Step Unit := do
  let isFirst := fun (r : Pattern × Statement) => match r.1 with
    | .first => true
    | _ => false
  let isLast := fun (r : Pattern × Statement) => match r.1 with
    | .last => true
    | _ => false
  let first := p.rules.filter isFirst
  let last := p.rules.filter isLast
  let others := p.rules.filter fun r => !isFirst r && !isLast r
  let untilExit := fun (a : Step Unit) => tryCatch (do
      a
      return true) fun stop =>
    match stop with
    | .exit => return false
    | .next => return true
    | stop => throw stop
  let begins : Step Unit := for r in first do run k depthBound r.2
  let goesOn ← untilExit begins
  if goesOn && !(others.isEmpty && last.isEmpty) then
    let _ ← untilExit (followAll k others depthBound)
  let finishes : Step Unit := for r in last do run k depthBound r.2
  let _ ← untilExit finishes

/-- What ends a run: all that is open is closed, and what has been printed is written. -/
def finish : Step Unit := do
  for o in (← machine).outputs do
    if o.process.isSome then
      let _ ← closeOutput o
  flushMain
  for o in (← machine).outputs do
    if o.process.isNone then
      let _ ← closeOutput o

/-- The machine that a program begins with. -/
def initial (environment : List (Text × Text)) (arguments : List Text) : Machine :=
  let set := fun (m : Machine) (name : String) (v : Value) => m.setCell (.shared name) (.one v)
  let m : Machine := {}
  let texts := [("FS", " "), ("OFS", " "), ("ORS", "\n"), ("RS", "\n"), ("SUBSEP", "\x1c"),
    ("CONVFMT", "%.6g"), ("OFMT", "%.6g"), ("FILENAME", "")]
  let m := texts.foldl (fun m (name, t) => set m name (.text t.toList)) m
  let numbers := [("NR", 0), ("FNR", 0), ("ARGC", ofWhole (arguments.length + 1))]
  let m := numbers.foldl (fun m (name, x) => set m name (.number x)) m
  let all := (("awk".toList) :: arguments).zipIdx
  let table := all.foldl (fun (t : Table Value) (a, i) => t.insert (.number i) (.input a))
    Table.empty
  let given := environment.foldl (fun (t : Table Value) (name, v) =>
    t.insert (.text name) (.input v)) Table.empty
  (m.setCell (.shared "ARGV") (.many table)).setCell (.shared "ENVIRON") (.many given)

/-- What the words of the utility ask for. -/
structure Asked where
  separator : Option Text := none
  assigned : List Text := []
  files : List Text := []
  words : List Text := []

/-- Reads the words of the utility, or tells what is wrong with them. -/
def askedFor : Nat → Asked → List Text → Except Text Asked
  | 0, a, _ => .ok a
  | _, a, [] => .ok { a with words := [] }
  | fuel + 1, a, w :: rest =>
      let withValue := fun (t : Text) (f : Text → Asked) =>
        match t, rest with
        | [], v :: more => askedFor fuel (f v) more
        | [], [] => .error ("option ".toList ++ w ++ " lacks argument".toList)
        | t, _ => askedFor fuel (f t) rest
      match w with
      | ['-', '-'] => .ok { a with words := rest }
      | '-' :: 'F' :: t => withValue t fun v => { a with separator := some v }
      | '-' :: 'v' :: t =>
          let v := if t.isEmpty then rest.head? else some t
          if v.any fun v => (assignment? v).isNone then
            .error ("improper assignment: -v ".toList ++ v.getD [])
          else withValue t fun v => { a with assigned := a.assigned ++ [v] }
      | '-' :: 'f' :: t => withValue t fun v => { a with files := a.files ++ [v] }
      | '-' :: 'W' :: t => withValue t fun _ => a
      | '-' :: _ :: _ => .error ("not an option: ".toList ++ w)
      | _ => .ok { a with words := w :: rest }

/-- Runs a program on files. -/
def scan (shell : Text → Text → Action Nat) (words : List Text) : Action Nat := do
  match askedFor (words.length + 1) {} words with
  | .error message =>
      complainAs "awk" message
      return 2
  | .ok asked =>
      let mut sources : List Text := []
      for f in asked.files do
        match ← content f with
        | .ok t => sources := sources ++ [t]
        | .error reason =>
            complainAs "awk" ("cannot open \"".toList ++ f ++ "\" (".toList ++ reason.toList ++
              [')'])
            return 2
      let (source, arguments) := if asked.files.isEmpty then
          (asked.words.head?, asked.words.drop 1)
        else (some (Text.join ['\n'] sources), asked.words)
      match source with
      | none =>
          complain "Usage: mawk [Options] [Program] [file ...]".toList
          return 0
      | some source =>
          match programOf source with
          | .error fault =>
              for line in fault do complainAs "awk" line
              return 2
          | .ok p =>
              let k : Context := {
                shell
                functions := p.functions.foldl (fun t f => t.insert f.name f) ∅ }
              let m := initial (← self).environment arguments
              let begin : Step Unit := do
                if let some t := asked.separator then
                  assignArgument "FS".toList t
                for t in asked.assigned do
                  if let some (name, value) := assignment? t then assignArgument name value
                runProgram k p
              let (_, m) ← (begin.run).run m
              let (_, m) ← (finish.run).run m
              return m.status

end Runbook.Shell.Scanning
