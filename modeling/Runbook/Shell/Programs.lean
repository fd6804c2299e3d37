import Runbook.Shell.Builtin
import Runbook.Shell.Checksums
import Runbook.Shell.Comparison
import Runbook.Shell.Dump
import Runbook.Shell.Editing
import Runbook.Shell.Finding
import Runbook.Shell.Pairing
import Runbook.Shell.Pieces
import Runbook.Shell.Search

set_option autoImplicit false

/-! # Programs

Which programs there are and how they are found: by a path, or in the directories of a search
path. A file that can be run and is none of the programs known here is a script.
-/

namespace Runbook.Shell

/-! ## Small utilities -/

/-- Prints its arguments like the command of the shell, but replaces escapes only if told to. -/
def plainEcho (arguments : List Text) : Action Nat := do
  let isOption := fun (t : Text) => match t with
    | '-' :: c :: more => (c :: more).all "neE".toList.contains
    | _ => false
  let options := arguments.takeWhile isOption
  let letters := options.flatMap (·.drop 1)
  let t := Text.join [' '] (arguments.drop options.length)
  let escapes := (letters.reverse.find? fun c => c == 'e' || c == 'E') == some 'e'
  let (shown, stopped) := if escapes then unescape (t.length + 1) t else (t, false)
  write (if letters.contains 'n' || stopped then shown else shown ++ ['\n'])
  return 0

/-- Prints the variables that the process has been given, or some of them. -/
def printEnvironment : List Text → Action Nat :=
  withOptions "printenv" { plain := "0" } 2 fun g => do
    let p ← self
    if g.operands.isEmpty then
      write (Text.terminated (p.environment.map fun (name, v) => name ++ '=' :: v))
      return 0
    let mut status := 0
    for name in g.operands do
      match p.environment.find? (·.1 == name) with
      | some (_, v) => writeLine v
      | none => status := 1
    return status

/-- A time that never comes, in millionths of a second. -/
def forever : Nat := 1000000000000000000

/-- The number of millionths of a second that a text denotes, rounded up. -/
def duration? (t : Text) : Option Nat :=
  let (digits, places, rest) := takeDecimal 10 t
  let unit := match String.ofList rest with
    | "" => some 1
    | "s" => some 1
    | "m" => some 60
    | "h" => some 3600
    | "d" => some 86400
    | _ => none
  let name := String.ofList (t.map Char.toLower)
  if name == "infinity" || name == "inf" then some forever
  else if digits.isEmpty then none
  else unit.map fun n =>
    let scale := Double.tenTo (places : Int)
    (inBase 10 digits * n * 1000000 + scale - 1) / scale

/-- Waits for a while. -/
def sleep : List Text → Action Nat :=
  withOptions "sleep" {} 1 fun g => do
    if g.operands.isEmpty then return ← misused "sleep" "missing operand".toList 1
    let bad := g.operands.filter fun t => (duration? t).isNone
    if bad.isEmpty then
      let total := (g.operands.filterMap duration?).foldl (· + ·) 0
      pause (.moment ((← clock) + total))
      return 0
    for t in bad.dropLast do
      complainAs "sleep" ("invalid time interval ".toList ++ quoted t)
    misused "sleep" ("invalid time interval ".toList ++ quoted ((bad.getLast?).getD [])) 1

/-- Prints the name of the user. -/
def showUser : List Text → Action Nat :=
  withOptions "whoami" {} 1 fun g => do
    match g.operands with
    | [] =>
        writeLine "root".toList
        return 0
    | t :: _ => misused "whoami" ("extra operand ".toList ++ quoted t) 1

/-- Prints the numbers and names of the user and its groups. -/
def showIdentity : List Text → Action Nat :=
  let kinds : OptionKinds := ⟨"ugGnrz", "", [("user", 'u'), ("group", 'g'), ("groups", 'G'),
    ("name", 'n'), ("real", 'r')]⟩
  withOptions "id" kinds 1 fun g => do
    let only := g.has 'u' || g.has 'g' || g.has 'G'
    match g.operands.find? (· != "root".toList) with
    | some t =>
        complainAs "id" (quoted t ++ ": no such user".toList)
        return 1
    | none =>
        if !only && (g.has 'n' || g.has 'r') then
          complainAs "id" "cannot print only names or real IDs in default format".toList
          return 1
        writeLine (if !only then "uid=0(root) gid=0(root) groups=0(root)".toList
          else if g.has 'n' then "root".toList else ['0'])
        return 0

/-- Prints the name of the system. -/
def showSystem : List Text → Action Nat :=
  let kinds : OptionKinds := ⟨"smo", "", [("kernel-name", 's'), ("machine", 'm'),
    ("operating-system", 'o')]⟩
  withOptions "uname" kinds 1 fun g => do
    match g.operands with
    | t :: _ => misused "uname" ("extra operand ".toList ++ quoted t) 1
    | [] =>
        let parts := [('s', "Linux"), ('m', "x86_64"), ('o', "GNU/Linux")].filter fun (c, _) =>
          g.has c || (c == 's' && g.options.isEmpty)
        writeLine (Text.join [' '] (parts.map (·.2.toList)))
        return 0

/-- Prints where a path leads to; there are no links. -/
def readLink : List Text → Action Nat :=
  withOptions "readlink" { plain := "efmnqsvz" } 1 fun g =>
    if g.has 'f' || g.has 'e' || g.has 'm' then
      realPath (g.operands)
    else return 1

/-- The utilities that run no other programs, by name. -/
def utilities : List (String × (List Text → Action Nat)) := [
  ("true", fun _ => return 0),
  ("false", fun _ => return 1),
  ("echo", plainEcho),
  ("printf", printf),
  ("test", test),
  ("[", bracketTest),
  ("pwd", fun _ => do
    writeLine (← self).path
    return 0),
  ("printenv", printEnvironment),
  ("sleep", sleep),
  ("touch", touch),
  ("date", showDate),
  ("mkdir", makeDirectory),
  ("rm", remove),
  ("rmdir", removeDirectory),
  ("cp", transfer false),
  ("mv", transfer true),
  ("ln", link),
  ("chmod", changeMode),
  ("ls", list),
  ("stat", showFacts),
  ("basename", baseName),
  ("dirname", directoryName),
  ("realpath", realPath),
  ("readlink", readLink),
  ("cat", concatenate),
  ("head", head),
  ("tail", tail),
  ("tac", reverseLines),
  ("rev", reverseEach),
  ("wc", count),
  ("cut", cut),
  ("paste", paste),
  ("nl", numberLines),
  ("fold", foldLines),
  ("tr", mapBytes),
  ("sort", sort),
  ("uniq", unique),
  ("comm", compareLines),
  ("cmp", compareFiles),
  ("diff", showDifferences),
  ("tee", duplicate),
  ("od", dump),
  ("seq", sequence),
  ("yes", yes),
  ("grep", searchLines 'G'),
  ("egrep", searchLines 'E'),
  ("fgrep", searchLines 'F'),
  ("expr", evaluateWords),
  ("sed", edit),
  ("join", joinLines),
  ("expand", expand),
  ("unexpand", unexpand),
  ("factor", factor),
  ("truncate", setSizes),
  ("split", splitFile),
  ("dd", copyBlocks),
  ("mktemp", makeTemporary),
  ("whoami", showUser),
  ("id", showIdentity),
  ("uname", showSystem),
  ("sum", showShortSums),
  ("cksum", showRemainders),
  ("base64", writePlain plain64),
  ("base32", writePlain plain32),
  ("sync", fun _ => return 0)] ++
  digestKinds.map fun k => (k.utility, showDigests k)

/-- The status of a utility that cannot write what it prints. -/
def failureOf (name : String) : Nat :=
  if ["grep", "egrep", "fgrep", "sort", "ls", "cmp", "diff", "printenv"].contains name then 2
  else if name == "expr" then 3
  else if name == "sed" then 4
  else 1

/-- What a utility says that cannot write what it prints. -/
def lossOf (name reason : String) : List String :=
  match name with
  | "yes" => ["yes: standard output: " ++ reason]
  | "sort" => ["sort: fflush failed: 'standard output': " ++ reason, "sort: write error"]
  | "sed" => ["sed: couldn't flush stdout: " ++ reason]
  | "wc" => ["wc: write error"]
  | _ => [name ++ ": write error: " ++ reason]

/-- The programs that are shells, and those that run other programs. -/
def runners : List String := ["sh", "dash", "bash", "env", "xargs", "find", "nohup", "nice",
  "timeout", "which", "awk", "mawk"]

/-- The utility of a name. -/
def utility? (name : Text) : Option (List Text → Action Nat) :=
  (utilities.find? (·.1.toList == name)).map (·.2)

/-- The names of all programs. -/
def programNames : List Text := (utilities.map (·.1) ++ runners).map (·.toList)

/-! ## Finding programs -/

/-- The directories that hold the programs. -/
def programDirectories : List (List Text) :=
  [["usr".toList, "bin".toList], ["bin".toList]]

/-- The directories in which programs are searched when no variable says so. -/
def defaultSearch : Text := "/usr/local/sbin:/usr/local/bin:/usr/sbin:/usr/bin:/sbin:/bin".toList

/-- A tree with the directories and programs that every system has. -/
def furnished (tree : FileTree) : FileTree :=
  let directories := programDirectories ++
    streamDirectories ++ [["tmp".toList], ["dev".toList, "shm".toList], ["etc".toList],
      ["usr".toList, "local".toList, "bin".toList]]
  let tree := directories.foldl (fun t d => t.makeDirectories d) tree
  let missing := programDirectories.flatMap fun d =>
    (programNames.map fun n => d ++ [n]).filter fun names => (tree.entry? names).isNone
  ⟨tree.entries ++ missing.map fun names => (names, .file [] true)⟩

/-- What is found when a program is looked for. -/
inductive Found where
  | program (name : Text)
  | script (bytes : Text)
  /-- Something is there, but it cannot be run. -/
  | forbidden
  | missing
  deriving DecidableEq, Repr

/-- What a path leads to. -/
def foundAt (s : State) (t : Text) : Found :=
  match look? s t, reached s t with
  | some .directory, _ => .forbidden
  | some (.file bytes true), some names =>
      if programDirectories.contains names.dropLast &&
          (names.getLast?).any programNames.contains then
        .program ((names.getLast?).getD [])
      else .script (textOf bytes)
  | some (.file _ false), _ => .forbidden
  | _, _ => .missing

/-- The paths at which a program may be found: its own if it has a slash, else in the directories
of a search path. -/
def candidates (search : Option Text) (name : Text) : List Text :=
  if name.contains '/' then [name]
  else
    match search with
    | none => []
    | some search => (search.splitOn ':').map fun d =>
        if d.isEmpty then name else inDirectory d name

/-- Looks for a program: what is found, and its path. -/
def findProgram (s : State) (search : Option Text) (name : Text) : Found × Text :=
  let all := (candidates search name).map fun t => (foundAt s t, t)
  let good := all.find? fun (f, _) => match f with
    | .program _ => true
    | .script _ => true
    | _ => false
  match good <|> all.find? (·.1 == .forbidden) with
  | some found => found
  | none => (.missing, name)

/-- The program that a script names in its first line, with what it is given before the path of the
script; none if the first line names none. -/
def interpreter? (bytes : Text) : Option (List Text) :=
  match bytes with
  | '#' :: '!' :: rest =>
      let line := (rest.takeWhile (· != '\n')).dropWhile fun c => c == ' ' || c == '\t'
      let name := line.takeWhile fun c => c != ' ' && c != '\t'
      let blank := fun (c : Char) => c == ' ' || c == '\t'
      let argument := ((line.drop name.length).dropWhile blank).reverse.dropWhile blank |>.reverse
      some (name :: if argument.isEmpty then [] else [argument])
  | _ => none

/-! ## Words from the input -/

/-- Cuts a text into words as a utility reads them that makes arguments of its input: at blanks that
are not quoted. A quotation mark that is not closed on its line is a fault. -/
def inputWords : Nat → Option Text → Text → Except Char (List Text)
  | 0, current, _ => .ok current.toList
  | _, current, [] => .ok current.toList
  | fuel + 1, current, c :: rest =>
      if c == ' ' || c == '\t' || c == '\n' then do
        .ok (current.toList ++ (← inputWords fuel none rest))
      else if c == '\\' then
        match rest with
        | d :: more => inputWords fuel (some (current.getD [] ++ [d])) more
        | [] => .ok current.toList
      else if c == '\'' || c == '"' then
        let inside := rest.takeWhile fun d => d != c && d != '\n'
        match rest.drop inside.length with
        | d :: more =>
            if d == c then inputWords fuel (some (current.getD [] ++ inside)) more else .error c
        | [] => .error c
      else inputWords fuel (some (current.getD [] ++ [c])) rest

/-- A text with another one in every place where a mark stands. -/
def replacing (mark new : Text) : Nat → Text → Text
  | 0, t => t
  | _, [] => []
  | fuel + 1, c :: rest =>
      if !mark.isEmpty && mark.isPrefixOf (c :: rest) then
        new ++ replacing mark new fuel ((c :: rest).drop mark.length)
      else c :: replacing mark new fuel rest

/-! ## Starting a shell -/

/-- What the words behind the name of the shell ask for. -/
structure Start where
  isCommand : Bool := false
  options : List Char := []
  words : List Text := []

/-- Reads the options of the shell, or tells what is wrong with them. -/
def readStart (start : Start) : List Text → Except Text Start
  | [] => .ok { start with words := [] }
  | ['-'] :: rest => .ok { start with words := rest }
  | ['-', '-'] :: rest => .ok { start with words := rest }
  | (sign :: letters) :: rest =>
      if (sign == '-' || sign == '+') && !letters.isEmpty then
        let known := "aceuxvfnbmsiCEIVlp".toList
        let on := sign == '-'
        let turned := fun (cs : List Char) =>
          let others := start.options.filter (!cs.contains ·)
          if on then cs ++ others else others
        if letters == ['o'] then
          match rest with
          | name :: more =>
              match optionNames.find? (·.1.toList == name) with
              | some (_, c) => readStart { start with options := turned [c] } more
              | none => .error ("Illegal option ".toList ++ [sign, 'o', ' '] ++ name)
          | [] => .ok { start with words := [] }
        else
          match letters.find? (!known.contains ·) with
          | some c => .error ("Illegal option ".toList ++ [sign, c])
          | none => readStart { start with
              isCommand := start.isCommand || letters.contains 'c'
              options := turned (letters.filter (· != 'c')) } rest
      else .ok { start with words := (sign :: letters) :: rest }
  | rest => .ok { start with words := rest }

end Runbook.Shell
