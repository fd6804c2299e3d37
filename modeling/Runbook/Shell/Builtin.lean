import Runbook.Shell.Expansion
import Runbook.Shell.Files
import Runbook.Shell.Jobs
import Runbook.Shell.Test

set_option autoImplicit false

/-! # Commands of the shell itself

The commands that look at the shell or change it: its directory, variables, arguments, options
and traps, and those that end it or a loop. Those that run other commands are not here. An error
in a command ends the shell if the command is a special one.
-/

namespace Runbook.Shell

/-! ## Arguments -/

/-- Reads the options of a command of the shell: their letters with values, and the other
arguments. -/
def readOptions (plain valued : String) : List Text →
    Action (List (Char × Text) × List Text)
  | [] => return ([], [])
  | ['-', '-'] :: rest => return ([], rest)
  | ('-' :: c :: letters) :: rest => do
      match readLetters { plain, valued } (c :: letters), rest with
      | .ok (options, none), rest =>
          let (more, after) ← readOptions plain valued rest
          return (options ++ more, after)
      | .ok (options, some d), v :: rest =>
          let (more, after) ← readOptions plain valued rest
          return (options ++ (d, v) :: more, after)
      | .ok (_, some d), [] => fail ("No arg for -".toList ++ [d] ++ " option".toList)
      | .error _, _ =>
          let bad := (c :: letters).find? fun d => !(plain ++ valued).toList.contains d
          fail ("Illegal option -".toList ++ [bad.getD c])
  | word :: rest => return ([], word :: rest)

/-- A number that a command of the shell takes. -/
def shellNumber (t : Text) : Action Nat :=
  match numberOf? true t with
  | some n =>
      if 0 ≤ n && n < 2147483648 then return n.toNat
      else fail ("Illegal number: ".toList ++ t)
  | none => fail ("Illegal number: ".toList ++ t)

/-- A text as it is shown to be read back: between apostrophes, and its own apostrophes between
quotation marks. -/
def shownQuoted : Nat → Text → Text
  | 0, _ => []
  | fuel + 1, t =>
      let plain := t.takeWhile (· != '\'')
      let rest := t.drop plain.length
      let marks := rest.takeWhile (· == '\'')
      let after := rest.drop marks.length
      '\'' :: plain ++ ['\''] ++
        (if marks.isEmpty then [] else '"' :: marks ++ ['"']) ++
        (if after.isEmpty then [] else shownQuoted fuel after)

/-- A text as it is shown to be read back. -/
def readable (t : Text) : Text := shownQuoted (t.length + 1) t

/-- The variables in the order of their names. -/
def sortedStore (p : Process) : List Variable :=
  p.store.mergeSort fun a b => !Text.before b.name a.name

/-! ## Directories -/

/-- Changes the directory; `physical` follows every name of the path. -/
def enter (physical : Bool) (t : Text) : Action Bool := do
  let s ← get
  let path := pathOf t
  let start := if path.isAbsolute then [] else s.process.directory
  let there :=
    if physical then s.system.tree.follow start path.parts
    else
      let names := Path.collapse (start ++ path.parts)
      if s.system.tree.entry? names == some .directory then some names else none
  match there.filter fun names => s.system.tree.entry? names == some .directory with
  | none => return false
  | some names =>
      let old := s.process.value? "PWD"
      modifySelf fun p => { p with directory := names }
      if let some old := old then assign "OLDPWD".toList old true
      assign "PWD".toList (← self).path true
      return true

/-- The text behind the last of some letters, which of them was given. -/
def lastOf (letters : List Char) (options : List (Char × Text)) : Option Char :=
  (options.reverse.find? fun o => letters.contains o.1).map (·.1)

/-- Changes the working directory. -/
def changeDirectory (arguments : List Text) : Action Nat := do
  let (options, operands) ← readOptions "LP" "" arguments
  let physical := lastOf ['L', 'P'] options == some 'P'
  let p ← self
  let (target, shown) := match operands.head? with
    | none => ((p.value? "HOME").getD [], false)
    | some ['-'] => ((p.value? "OLDPWD").getD [], true)
    | some t => (t, false)
  let target := if target.isEmpty then ['.'] else target
  let first := (target.splitOn '/').head?.getD []
  let direct := target.head? == some '/' || first == ['.'] || first == ['.', '.']
  let prefixes := if direct then [] else
    ((p.value? "CDPATH").map fun t => t.splitOn ':').getD []
  let s ← get
  let found := prefixes.find? fun d =>
    isDirectory s (if d.isEmpty then target else inDirectory d target)
  let (place, shown) := match found with
    | some d => if d.isEmpty then (target, shown) else (inDirectory d target, true)
    | none => (target, shown)
  if ← enter physical place then
    if shown then writeLine (← self).path
    return 0
  else fail ("can't cd to ".toList ++ target)

/-- Prints the working directory. -/
def printDirectory (arguments : List Text) : Action Nat := do
  let _ ← readOptions "LP" "" arguments
  writeLine (← self).path
  return 0

/-! ## Variables -/

/-- Changes the variable of a name, or makes one without a value. -/
def amend (name : Text) (f : Variable → Variable) : Action Unit :=
  modifySelf fun p => p.put (f ((p.find? name).getD { name, value := none }))

/-- Refuses a text that is no name of a variable. -/
def checkName (t : Text) : Action Unit :=
  if isName t then return else fail (t ++ ": bad variable name".toList)

/-- Sets a mark on variables, or shows those that have it. -/
def declare (keyword : String) (has : Variable → Bool) (mark : Variable → Variable)
    (arguments : List Text) : Action Nat := do
  let (options, operands) ← readOptions "p" "" arguments
  if options.isEmpty && !operands.isEmpty then
    for t in operands do
      let (name, value) := Text.cutAt '=' t
      checkName name
      if let some v := value then assign name v false
      amend name mark
    return 0
  for v in sortedStore (← self) do
    if has v then
      writeLine (keyword.toList ++ ' ' :: v.name ++ match v.value with
        | some t => '=' :: readable t
        | none => [])
  return 0

/-- Exports variables. -/
def exportAll : List Text → Action Nat :=
  declare "export" (·.exported) fun v => { v with exported := true }

/-- Fixes variables. -/
def fixAll : List Text → Action Nat :=
  declare "readonly" (·.fixed) fun v => { v with fixed := true }

/-- Removes a variable, which must not be fixed. -/
def removeVariable (name : Text) : Action Unit := do
  if ((← self).find? name).any (·.fixed) then fail (name ++ ": is read only".toList)
  modifySelf (·.forget name)

/-- Removes variables or functions. -/
def unsetAll (arguments : List Text) : Action Nat := do
  let (options, operands) ← readOptions "vf" "" arguments
  for name in operands do
    if lastOf ['v', 'f'] options == some 'f' then
      modifySelf fun p => { p with functions := p.functions.filter (·.name != name) }
    else
      checkName name
      removeVariable name
  return 0

/-- Makes variables the function's own until it ends. -/
def makeLocal (arguments : List Text) : Action Nat := do
  if (← self).calls == 0 then fail "not in a function".toList
  for t in arguments do
    let (name, value) := Text.cutAt '=' t
    if t != ['-'] then checkName name
    let keep := fun (p : Process) =>
      match p.hidden with
      | frame :: rest =>
          if frame.any (·.1 == name) then p
          else { p with hidden := ((name, p.find? name) :: frame) :: rest }
      | [] => p
    modifySelf keep
    if let some v := value then assign name v false
  return 0

/-! ## Options and arguments of the shell -/

/-- The options of the shell by name, in the order in which they are shown, with their letters. -/
def optionNames : List (String × Char) := [("errexit", 'e'), ("noglob", 'f'), ("ignoreeof", 'I'),
  ("interactive", 'i'), ("monitor", 'm'), ("noexec", 'n'), ("stdin", 's'), ("xtrace", 'x'),
  ("verbose", 'v'), ("vi", 'V'), ("emacs", 'E'), ("noclobber", 'C'), ("allexport", 'a'),
  ("notify", 'b'), ("nounset", 'u'), ("privileged", 'p'), ("nolog", 'l'), ("debug", 'd')]

/-- Turns an option on or off. -/
def Process.switch (p : Process) (letter : Char) (on : Bool) : Process :=
  let others := p.options.filter (· != letter)
  { p with options := if on then letter :: others else others }

/-- Shows the options. -/
def showOptions (plain : Bool) : Action Unit := do
  let p ← self
  if plain then writeLine "Current option settings".toList
  for (name, letter) in optionNames do
    let on := p.has letter
    if plain then
      writeLine (Text.padEnd 16 name.toList ++ if on then "on".toList else "off".toList)
    else
      writeLine ((if on then "set -o " else "set +o ").toList ++ name.toList)

/-- Turns an option on or off. The control of jobs needs a terminal. -/
def switchOne (on : Bool) (letter : Char) : Action Unit :=
  if on && letter == 'm' then report "can't access tty; job control turned off".toList
  else modifySelf (·.switch letter on)

/-- Turns the options of letters on or off, and gives the words that are left. An `o` takes the
name of an option from them, or shows the options if there is none. -/
def switchLetters (on : Bool) : Text → List Text → Action (List Text)
  | [], rest => return rest
  | c :: more, rest => do
      let sign := if on then '-' else '+'
      if c == 'o' then
        match rest with
        | [] =>
            showOptions on
            switchLetters on more []
        | name :: rest =>
            match optionNames.find? (·.1.toList == name) with
            | some (_, letter) => switchOne on letter
            | none => fail ("Illegal option ".toList ++ [sign, 'o', ' '] ++ name)
            switchLetters on more rest
      else if "efIimnsxvVECabup".toList.contains c then
        switchOne on c
        switchLetters on more rest
      else fail ("Illegal option ".toList ++ [sign, c])

/-- Reads so many options of the shell: the words behind them, and whether these are to be the
arguments even if there are none. -/
def switchOptions : Nat → List Text → Action (List Text × Bool)
  | 0, words => return (words, true)
  | _, [] => return ([], false)
  | fuel + 1, word :: rest =>
      match word with
      | ['-'] => do
          modifySelf fun p => { p with options := p.options.filter fun c => c != 'x' && c != 'v' }
          return (rest, false)
      | ['-', '-'] => return (rest, true)
      | sign :: c :: letters =>
          if sign == '-' || sign == '+' then do
            switchOptions fuel (← switchLetters (sign == '-') (c :: letters) rest)
          else return (word :: rest, true)
      | _ => return (word :: rest, true)

/-- Sets options and arguments of the shell, or shows the variables. -/
def setOptions (arguments : List Text) : Action Nat := do
  if arguments.isEmpty then
    for v in sortedStore (← self) do
      if let some t := v.value then writeLine (v.name ++ '=' :: readable t)
  else
    let (rest, given) ← switchOptions (arguments.length + 1) arguments
    if given || !rest.isEmpty then modifySelf fun p => { p with arguments := rest }
  return 0

/-- Drops the first arguments of the shell. -/
def shift (arguments : List Text) : Action Nat := do
  let n ← match arguments with
    | t :: _ => shellNumber t
    | [] => pure 1
  if (← self).arguments.length < n then fail "can't shift that many".toList
  modifySelf fun p => { p with arguments := p.arguments.drop n }
  return 0

/-- Takes the next option from arguments. -/
def nextOption (arguments : List Text) : Action Nat := do
  match arguments with
  | known :: name :: rest => do
      let p ← self
      let words := if rest.isEmpty then p.arguments else rest
      let index := p.optionIndex
      -- The letters that are left of a word that has been read in part.
      let begun := if index ≤ 1 || p.letters == 0 then []
        else ((words[index - 2]?).getD []).drop p.letters
      let (letters, index) :=
        if !begun.isEmpty then (begun, index)
        else
          match words[index - 1]? with
          | some ('-' :: c :: more) =>
              if c == '-' && more.isEmpty then ([], index + 1) else (c :: more, index + 1)
          | _ => ([], index)
      let finish := fun (c : Char) (index letters : Nat) (status : Nat) => do
        modifySelf fun p => p.set "OPTIND".toList (Text.ofNat index) false
        assign name [c] false
        modifySelf fun p => { p with letters }
        return status
      match letters with
      | [] => finish '?' index 0 1
      | c :: more =>
          let quiet := known.head? == some ':'
          let used := ((words[index - 2]?).getD []).length - more.length
          let left := if more.isEmpty then 0 else used
          if c == ':' || !known.contains c then
            if quiet then assign "OPTARG".toList [c] false
            else
              complain ("Illegal option -".toList ++ [c])
              modifySelf (·.forget "OPTARG".toList)
            finish '?' index left 0
          else if ((known.dropWhile (· != c)).drop 1).head? == some ':' then
            match if more.isEmpty then words[index - 1]? else some more with
            | some value =>
                assign "OPTARG".toList value false
                finish c (if more.isEmpty then index + 1 else index) 0 0
            | none =>
                if quiet then
                  assign "OPTARG".toList [c] false
                  finish ':' index 0 0
                else
                  complain ("No arg for -".toList ++ [c] ++ " option".toList)
                  modifySelf (·.forget "OPTARG".toList)
                  finish '?' index 0 0
          else
            assign "OPTARG".toList [] false
            finish c index left 0
  | _ => fail "Usage: getopts optstring var [arg]".toList

/-! ## Input -/

/-- Reads a line: its bytes with whether each is quoted, and whether it was ended. A backslash
quotes the next byte, and joins lines. -/
def takeLine (raw : Bool) : Nat → Text → List (Bool × Char) × Bool
  | 0, _ => ([], false)
  | _, [] => ([], false)
  | fuel + 1, c :: rest =>
      let after := fun (marks : List (Bool × Char)) (t : Text) =>
        let (more, ended) := takeLine raw fuel t
        (marks ++ more, ended)
      if c == '\n' then ([], true)
      else if c == '\x00' then takeLine raw fuel rest
      else if c == '\\' && !raw then
        match rest with
        | [] => ([], false)
        | '\n' :: more => takeLine raw fuel more
        | d :: more => after [(true, d)] more
      else after [(false, c)] rest

/-- A text without the blanks that end it, unless they are quoted. -/
def withoutEnds (isBlank : Bool × Char → Bool) (t : List (Bool × Char)) : List (Bool × Char) :=
  (t.reverse.dropWhile isBlank).reverse

/-- Cuts a line into so many fields; the last one holds what is left. -/
def lineFields (isBlank isOther : Bool × Char → Bool) : Nat → List (Bool × Char) → List Text
  | 0, _ => []
  | n + 1, t =>
      let t := t.dropWhile isBlank
      let separates := fun (m : Bool × Char) => isBlank m || isOther m
      let field := t.takeWhile (!separates ·)
      let rest := (t.drop field.length).dropWhile isBlank
      let rest := match rest with
        | m :: more => if isOther m then more.dropWhile isBlank else rest
        | [] => []
      if n == 0 then
        [(if rest.isEmpty then field else withoutEnds isBlank t).map (·.2)]
      else if t.isEmpty then List.replicate (n + 1) []
      else field.map (·.2) :: lineFields isBlank isOther n rest

/-- Takes a line from the standard input behind the beginning of it that has been taken: its bytes
with whether each is quoted, and whether it was ended. -/
def takeLineFrom (raw : Bool) : Nat → Text → Action (List (Bool × Char) × Bool)
  | 0, begun => return takeLine raw (begun.length + 1) begun
  | fuel + 1, begun => do
      let input := (← peekStream 0 (some 256)).toOption.getD []
      let line := input.takeWhile (· != '\n')
      let piece := if line.length < input.length then line ++ ['\n'] else line
      advance 0 piece.length
      let begun := begun ++ piece
      let (marks, ended) := takeLine raw (begun.length + 1) begun
      if ended || piece.isEmpty then return (marks, ended) else takeLineFrom raw fuel begun

/-- Reads a line from the standard input into variables. -/
def readLine (arguments : List Text) : Action Nat := do
  let (options, names) ← readOptions "r" "p" arguments
  if names.isEmpty then fail "arg count".toList
  let raw := options.any (·.1 == 'r')
  let (line, ended) ← takeLineFrom raw pieceBound []
  let separators := separators (← self)
  let isDefault := fun (c : Char) => c == ' ' || c == '\t' || c == '\n'
  let isBlank := fun ((quoted, c) : Bool × Char) => !quoted && isDefault c && separators.contains c
  let isOther := fun ((quoted, c) : Bool × Char) =>
    !quoted && !isDefault c && separators.contains c
  for (name, value) in names.zip (lineFields isBlank isOther names.length line) do
    checkName name
    assign name value false
  return if ended then 0 else 1

/-! ## Ends -/

/-- Ends the shell. -/
def leaveShell (arguments : List Text) : Action Nat := do
  match arguments with
  | t :: _ => throw (.exit (← shellNumber t))
  | [] =>
      let p ← self
      throw (.exit (p.kept.getD p.status))

/-- Goes on behind the current function. -/
def answer (arguments : List Text) : Action Nat := do
  let n ← match arguments with
    | t :: _ => shellNumber t
    | [] => pure (← self).status
  setStatus n
  throw (.answer n)

/-- Goes on behind a loop, or with its next turn. Outside of loops it does nothing. -/
def leaveLoops (halt : Nat → Halt) (arguments : List Text) : Action Nat := do
  let n ← match arguments with
    | t :: _ =>
        let n ← shellNumber t
        if n == 0 then fail ("Illegal number: ".toList ++ t)
        pure n
    | [] => pure 1
  let n := min n (← self).loops
  setStatus 0
  if n == 0 then return 0 else throw (halt n)

/-! ## Traps -/

/-- Sets what is run on signals, or shows it. -/
def trap (arguments : List Text) : Action Nat := do
  let (_, operands) ← readOptions "" "" arguments
  let p ← self
  match operands with
  | [] =>
      for (n, action) in p.traps.mergeSort fun a b => a.1 ≤ b.1 do
        writeLine ("trap -- ".toList ++ readable action ++ ' ' :: signalName n)
      return 0
  | first :: rest =>
      let resets := rest.isEmpty || (signalNumber? first).isSome
      let action := if resets || first == ['-'] then none else some first
      for t in (if resets then operands else rest) do
        match signal? 0 t with
        | none =>
            complain ("trap: ".toList ++ t ++ ": bad trap".toList)
            return 1
        | some n =>
            modifySelf fun p => { p with
              traps := p.traps.filter (·.1 != n) ++ action.toList.map (n, ·) }
      return 0

/-! ## Other commands -/

/-- The text of a mode as the rights of the three classes. -/
def symbolicMask (mask : Nat) : Text :=
  let rights := fun (name : Char) (bits : Nat) =>
    let kept := [('r', 4), ('w', 2), ('x', 1)].filter fun (_, b) => bits / b % 2 == 0
    name :: '=' :: kept.map (·.1)
  rights 'u' (mask / 64 % 8) ++ ',' :: rights 'g' (mask / 8 % 8) ++ ',' :: rights 'o' (mask % 8)

/-- Sets the bits that new files do not get, or shows them. -/
def setMask (arguments : List Text) : Action Nat := do
  let (options, operands) ← readOptions "S" "" arguments
  let mask := (← self).mask
  match operands with
  | [] =>
      let digits := Nat.toDigits 8 mask
      writeLine (if options.isEmpty then List.replicate (4 - digits.length) '0' ++ digits
        else symbolicMask mask)
      return 0
  | t :: _ =>
      if t.head?.any Char.isDigit then
        if !t.all (isDigitIn 8) || 511 < inBase 8 t then fail ("Illegal number: ".toList ++ t)
        modifySelf fun p => { p with mask := inBase 8 t }
        return 0
      else
        let changed := (t.splitOn ',').foldlM (fun mask clause =>
          let who := clause.takeWhile "ugoa".toList.contains
          let who := if who.isEmpty || who.contains 'a' then ['u', 'g', 'o'] else who
          match clause.drop (clause.takeWhile "ugoa".toList.contains).length with
          | op :: bits =>
              if !"=+-".toList.contains op || !bits.all "rwxXst".toList.contains then none
              else
                let rights := (if bits.contains 'r' then 4 else 0) +
                  (if bits.contains 'w' then 2 else 0) + (if bits.contains 'x' then 1 else 0)
                let change := fun (mask scale : Nat) =>
                  let old := mask / scale % 8
                  let new := if op == '=' then 7 - rights
                    else if op == '+' then Nat.land old (7 - rights)
                    else Nat.lor old rights
                  mask - old * scale + new * scale
                some ([('u', 64), ('g', 8), ('o', 1)].foldl (fun mask (c, scale) =>
                  if who.contains c then change mask scale else mask) mask)
          | [] => none) mask
        match changed with
        | some mask =>
            modifySelf fun p => { p with mask }
            return 0
        | none => fail ("Illegal mode: ".toList ++ t)

/-- Named things in the order of a table of so many cells, in which each has the cell that the
characters of its name add up to, the first one counted seventeen times. -/
def inCells {α : Type} (cells : Nat) (name : α → Text) (all : List α) : List α :=
  let cell := fun (a : α) =>
    ((name a).foldl (fun n c => n + c.toNat) (((name a).head?.getD ' ').toNat * 16)) % cells
  all.mergeSort fun a b => cell a ≤ cell b

/-- Sets other names for commands, or shows them. -/
def setAliases (arguments : List Text) : Action Nat := do
  let shown := fun ((name, value) : Text × Text) => writeLine (name ++ '=' :: readable value)
  if arguments.isEmpty then
    for a in inCells 39 (·.1) (← self).aliases do shown a
    return 0
  let mut status := 0
  for t in arguments do
    -- An equals sign in front belongs to the name.
    let (first, rest) := Text.cutAt '=' (t.drop 1)
    let name := t.take 1 ++ first
    match rest with
    | some value =>
        modifySelf fun p => { p with
          aliases := if p.aliases.any (·.1 == name) then
              p.aliases.map fun a => if a.1 == name then (name, value) else a
            else p.aliases ++ [(name, value)] }
    | none =>
        match (← self).aliases.find? (·.1 == name) with
        | some a => shown a
        | none =>
            complain ("alias: ".toList ++ name ++ " not found".toList)
            status := 1
  return status

/-- Removes other names for commands. -/
def removeAliases (arguments : List Text) : Action Nat := do
  let (options, operands) ← readOptions "a" "" arguments
  if !options.isEmpty then
    modifySelf fun p => { p with aliases := [] }
    return 0
  let mut status := 0
  for name in operands do
    if (← self).aliases.any (·.1 == name) then
      modifySelf fun p => { p with aliases := p.aliases.filter (·.1 != name) }
    else
      complain ("unalias: ".toList ++ name ++ " not found".toList)
      status := 1
  return status

/-- Shows the time that has been used, which is none. -/
def showTimes (_ : List Text) : Action Nat := do
  write (Text.terminated (List.replicate 2 "0m0.000000s 0m0.000000s".toList))
  return 0

/-- Shows a limit of the system, of which there are none. -/
def showLimit (arguments : List Text) : Action Nat := do
  let _ ← readOptions "HSatfdscmlpnvwr" "" arguments
  writeLine "unlimited".toList
  return 0

/-- Lists the jobs, the one that was started last first. -/
def listJobs (arguments : List Text) : Action Nat := do
  let (options, operands) ← readOptions "lp" "" arguments
  let named ← operands.mapM jobOf
  let all := (← self).jobs
  for j in (if operands.isEmpty then all else named) do
    if lastOf ['l', 'p'] options == some 'p' then
      writeLine ((j.processes.head?.map Text.ofNat).getD [])
    else showJob (!options.isEmpty) j
  return 0

/-- The commands that let a job go on, which only a shell with a terminal has. -/
def resumeJob (arguments : List Text) : Action Nat := do
  let (_, operands) ← readOptions "" "" arguments
  let t := operands.head?.getD ['%']
  let _ ← jobOf t
  let shown := if operands.isEmpty then "(null)".toList else t
  fail ("job ".toList ++ shown ++ " not created under job control".toList)

/-- The commands of the shell that run no others. -/
def builtins : List (String × (List Text → Action Nat)) := [
  (":", fun _ => return 0),
  ("true", fun _ => return 0),
  ("false", fun _ => return 1),
  ("echo", echo),
  ("printf", printf),
  ("test", test),
  ("[", bracketTest),
  ("cd", changeDirectory),
  ("chdir", changeDirectory),
  ("pwd", printDirectory),
  ("export", exportAll),
  ("readonly", fixAll),
  ("unset", unsetAll),
  ("local", makeLocal),
  ("set", setOptions),
  ("shift", shift),
  ("getopts", nextOption),
  ("read", readLine),
  ("exit", leaveShell),
  ("return", answer),
  ("break", leaveLoops .leave),
  ("continue", leaveLoops .resume),
  ("kill", kill),
  ("trap", trap),
  ("umask", setMask),
  ("alias", setAliases),
  ("unalias", removeAliases),
  ("times", showTimes),
  ("ulimit", showLimit),
  ("jobs", listJobs),
  ("fg", resumeJob),
  ("bg", resumeJob)]

end Runbook.Shell
