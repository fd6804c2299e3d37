import Runbook.Shell.Syntax

set_option autoImplicit false

/-! # Reading the shell language

Commands are read from characters by recursive descent, one line of them at a time: a line is run
before the next one is read. What a character means depends on the *place* it stands at, which is
outside quotation marks, inside them, between braces, in an expression, or in an inline text. A
backslash before a line end joins the two lines everywhere but between apostrophes.

The inline text of a redirection stands behind the end of the line. It is taken out of the source
as soon as its redirection is read.

A word that is an alias is replaced where a command may begin: its text is put in front of what is
left of the source. It is not replaced again before that text has been read. If the text ends with a
blank, the word behind it is looked at too.
-/

namespace Runbook.Shell

/-- Why a text is not in the shell language, and on which line. -/
structure SyntaxFault where
  line : Nat
  message : String
  deriving DecidableEq, Repr

/-- A token. -/
inductive Token where
  | finish
  | newline
  | operator (sign : String)
  | redirect (stream : Option Nat) (sign : String)
  | word (w : Word)

/-- An alias whose text is being read. -/
structure Opened where
  name : Text
  /-- How much of the source stands behind the text. -/
  behind : Nat
  /-- Whether the text ends with a blank. -/
  invites : Bool

/-- What is left to read. -/
structure Source where
  /-- The rest of the text. -/
  rest : Text
  /-- The number of the current line. -/
  line : Nat := 1
  /-- The number of lines that have been taken out behind it. -/
  hidden : Nat := 0
  /-- The token that has been read ahead. -/
  ahead : Option Token := none
  /-- The aliases with their texts. -/
  aliases : List (Text × Text) := []
  opened : List Opened := []

/-- The alias when the source behind its text has become shorter. -/
def Opened.shifted (o : Opened) (n : Nat) : Opened := { o with behind := o.behind - n }

/-- A source for a part that is read by itself, in which no alias is replaced that is being read. -/
def Source.apart (s : Source) (rest : Text) : Source :=
  let left := if s.opened.isEmpty then 0 else s.rest.length
  let opened := (s.opened.filter (·.behind ≤ left)).map fun o => o.shifted o.behind
  { s with rest, ahead := none, hidden := 0, opened }

/-- A step that reads from the source. -/
abbrev Reader (α : Type) := StateT Source (Except SyntaxFault) α

namespace Reader

/-! ## Tokens -/

/-- The reserved words. -/
def reservedWords : List String := ["!", "\x7b", "\x7d", "case", "do", "done", "elif", "else",
  "esac", "fi", "for", "if", "in", "then", "until", "while"]

/-- The reserved word that a token is. -/
def keyword? : Token → Option String
  | .word w =>
      (plain? w).bind fun t => reservedWords.find? (·.toList == t)
  | _ => none

/-- Whether a token is the operator `sign`. -/
def isOperator (sign : String) : Token → Bool
  | .operator s => s == sign
  | _ => false

/-- Whether a token ends a list of commands. -/
def endsList (t : Token) : Bool :=
  match t with
  | .finish => true
  | .operator s => s == ")" || s == ";;"
  | _ => (keyword? t).any (["do", "done", "elif", "else", "esac", "fi", "for", "then",
      "\x7d"].contains ·)

/-- A token as a message names it. -/
def nameOf (t : Token) : String :=
  match t with
  | .finish => "end of file"
  | .newline => "newline"
  | .operator s => "\"" ++ s ++ "\""
  | .redirect _ _ => "redirection"
  | .word _ =>
      match keyword? t with
      | some s => "\"" ++ s ++ "\""
      | none => "word"

/-- Refuses the source. -/
def fault {α : Type} (message : String) : Reader α := do
  throw ⟨(← get).line, message⟩

/-- Refuses the source because of a token. -/
def unexpected {α : Type} (t : Token) (expected : Option String) : Reader α :=
  fault (nameOf t ++ " unexpected" ++
    (expected.map fun s => " (expecting " ++ s ++ ")").getD "")

/-! ## Characters -/

/-- Passes over `n` characters. Behind the end of a line stand the lines that were taken out. -/
def skip : Nat → Reader Unit
  | 0 => pure ()
  | n + 1 => do
      modify fun s =>
        match s.rest with
        | '\n' :: rest => { s with rest, line := s.line + 1 + s.hidden, hidden := 0 }
        | _ :: rest => { s with rest }
        | [] => s
      skip n

/-- Passes over backslashes before line ends and gives what is left. -/
def glued : Reader Text := do
  let rec joins : Text → Nat
    | '\\' :: '\n' :: rest => joins rest + 2
    | _ => 0
  skip (joins (← get).rest)
  return (← get).rest

/-- A character that ends a word unless it is quoted. -/
def endsWord (c : Char) : Bool :=
  c == ' ' || c == '\t' || c == '\n' || c == ';' || c == '&' || c == '|' || c == '<' ||
    c == '>' || c == '(' || c == ')'

/-- Passes over blanks, and over a comment. -/
def skipBlanks : Nat → Reader Unit
  | 0 => pure ()
  | fuel + 1 => do
      match ← glued with
      | ' ' :: _ => skip 1; skipBlanks fuel
      | '\t' :: _ => skip 1; skipBlanks fuel
      | '#' :: rest => skip (1 + (rest.takeWhile (· != '\n')).length)
      | _ => pure ()

/-- The signs of redirections, the longer ones first. -/
def redirectionSigns : List String := ["<<-", "<<", "<&", "<>", "<", ">>", ">&", ">|", ">"]

/-- The operators, the longer ones first. -/
def operatorSigns : List String := ["&&", "||", ";;", ";", "&", "|", "(", ")"]

/-- The sign of a list that a text begins with. -/
def signOf? (signs : List String) (t : Text) : Option String :=
  signs.find? fun s => s.toList.isPrefixOf t

/-- The place at which a character stands. -/
inductive Place where
  /-- Outside quotation marks, where a word ends at a blank or an operator. -/
  | bare
  | quotes
  /-- In the word between the braces of a place that is itself quoted or not. -/
  | braces (quoted : Bool)
  /-- In an expression, inside so many brackets of its own. -/
  | sum (depth : Nat)
  | inline
  deriving DecidableEq, Repr

/-- Whether characters at the place are quoted. -/
def Place.isQuoted : Place → Bool
  | .bare => false
  | .quotes => true
  | .braces quoted => quoted
  | .sum _ => true
  | .inline => true

/-- Whether a backslash at the place takes the meaning of `c` away, and is taken away itself. -/
def Place.escapes (p : Place) (c : Char) : Bool :=
  !p.isQuoted || c == '\\' || c == '$' || c == '\x60' ||
    (c == '"' && p != .inline) || (c == '}' && p == .braces true)

/-- What ends a place that is not ended. -/
def Place.missing : Place → Option String
  | .bare => none
  | .quotes => some "Unterminated quoted string"
  | .braces _ => some "Missing '\x7d'"
  | .sum _ => some "Missing '))'"
  | .inline => none

/-- The text between grave accents, the first of which has been read. Backslashes before the
characters with a meaning there are taken away. -/
def graveText (quoted : Bool) : Text → Option (Text × Nat)
  | [] => none
  | '\x60' :: _ => some ([], 1)
  | '\\' :: c :: rest =>
      let taken := c == '\x60' || c == '$' || c == '\\' || (quoted && c == '"')
      (graveText quoted rest).map fun (t, n) => ((if taken then [c] else ['\\', c]) ++ t, n + 2)
  | c :: rest => (graveText quoted rest).map fun (t, n) => (c :: t, n + 1)

/-- The form that a text between braces has behind the name, and the length of its sign. -/
def formOf? : Text → Option (Form × Nat)
  | ':' :: c :: _ => (shared c true).map (·, 2)
  | '%' :: '%' :: _ => some (.withoutEnd true, 2)
  | '%' :: _ => some (.withoutEnd false, 1)
  | '#' :: '#' :: _ => some (.withoutStart true, 2)
  | '#' :: _ => some (.withoutStart false, 1)
  | c :: _ => (shared c false).map (·, 1)
  | [] => none
where
  /-- The forms that can count an empty value as missing. -/
  shared (c : Char) (orEmpty : Bool) : Option Form :=
    match c with
    | '-' => some (.otherwise orEmpty)
    | '=' => some (.settle orEmpty)
    | '?' => some (.demand orEmpty)
    | '+' => some (.instead orEmpty)
    | _ => none

/-- The name that a text between braces begins with, and whether its length is asked for. -/
def nameIn? (t : Text) : Option (Text × Bool) :=
  match t with
  | '#' :: c :: rest =>
      if isNameStart c then some (c :: rest.takeWhile isNameRest, true)
      else if c.isDigit then some (c :: rest.takeWhile Char.isDigit, true)
      else if c != '}' && rest.head? == some '}' then
        if isSpecial c then some ([c], true) else none
      else some (['#'], false)
  | c :: rest =>
      if isNameStart c then some (c :: rest.takeWhile isNameRest, false)
      else if c.isDigit then some (c :: rest.takeWhile Char.isDigit, false)
      else if isSpecial c then some ([c], false)
      else none
  | [] => none

/-! ## Aliases -/

/-- Puts the text of the alias that a word is in front of the source, and says whether the word is
one. -/
def replaces (w : Word) : Reader Bool := do
  let s ← get
  if s.aliases.isEmpty then return false
  let left := s.rest.length
  let opened := s.opened.filter (·.behind ≤ left)
  match (plain? w).bind fun name => s.aliases.find? (·.1 == name) with
  | none => return false
  | some (name, t) =>
      if opened.any (·.name == name) then return false
      let invites := (t.getLast?).any fun c => c == ' ' || c == '\t'
      let own := if t.isEmpty then [] else [⟨name, left, invites⟩]
      set { s with rest := t ++ s.rest, opened := own ++ opened }
      return true

/-- Whether the text of an alias that ends with a blank has been left since there were `before`
characters. -/
def isInvited (before : Nat) : Reader Bool := do
  let s ← get
  if s.opened.isEmpty then return false
  let left := s.rest.length
  return s.opened.any fun o => o.invites && o.behind < before && left ≤ o.behind

/-! ## Inline texts -/

/-- The lines up to one that is `stop`, and those behind it if there is one. -/
def linesUpTo (stop : Text) (strip : Bool) : List Text → List Text × Option (List Text)
  | [] => ([], none)
  | line :: rest =>
      let line := if strip then line.dropWhile (· == '\t') else line
      if line == stop then ([], some rest)
      else
        let (more, after) := linesUpTo stop strip rest
        (line :: more, after)

/-- The pieces of a text between line feeds. -/
def pieces (t : Text) : List Text :=
  t.foldr (fun c done =>
    match c, done with
    | '\n', _ => [] :: done
    | c, d :: more => (c :: d) :: more
    | c, [] => [[c]]) [[]]

/-- Takes the inline text that ends at the line `stop`, or else with the source, out of the
source. -/
def takeInline (stop : Text) (strip : Bool) : Reader Text := do
  let s ← get
  match Text.cutAt '\n' s.rest with
  | (_, none) => return []
  | (before, some after) =>
      match linesUpTo stop strip (pieces after) with
      | (found, some left) =>
          let rest := if left.isEmpty then [] else Text.join ['\n'] left
          let gone := after.length - rest.length
          set { s with
            rest := before ++ '\n' :: rest
            hidden := s.hidden + found.length + 1
            opened := s.opened.map fun (o : Opened) => o.shifted gone }
          return Text.terminated found
      | (found, none) =>
          set { s with
            rest := before ++ ['\n']
            hidden := s.hidden + found.length
            opened := s.opened.map fun (o : Opened) => o.shifted after.length }
          return Text.join ['\n'] found

/-- The characters of a word, whatever quotes them. -/
def wordText (w : Word) : Text :=
  w.filterMap fun p =>
    match p with
    | .char _ c => some c
    | _ => none

/-- Whether something in a word is quoted. -/
def isQuoted (w : Word) : Bool :=
  w.any fun p =>
    match p with
    | .char quoted _ => quoted
    | .nothing => true
    | _ => false

/-- The assignment that a word is: a name, an equals sign and a value. -/
def assignment? (w : Word) : Option (Text × Word) :=
  match Text.cutAt '=' (plainStart w) with
  | (name, some _) => if isName name then some (name, w.drop (name.length + 1)) else none
  | _ => none
where
  /-- The characters of a word's beginning that are not quoted. -/
  plainStart : Word → Text
    | .char false c :: rest => c :: plainStart rest
    | _ => []

/-- One command behind another. -/
def andThen (c d : Command) : Command :=
  match d with
  | .skip => c
  | d => .sequence c d

/-- The parts of a simple command. -/
structure Simple where
  assignments : List (Text × Word) := []
  words : List Word := []
  redirections : List Redirection := []

/-- Parts that stood between quotation marks, the last one first. -/
def orNothing (inside : List Part) : List Part :=
  if inside.isEmpty then [.nothing] else inside.reverse

/-- Puts a token back. -/
def putBack (t : Token) : Reader Unit := modify fun s => { s with ahead := some t }

/-! ## Words and commands -/

mutual

/-- Reads the parts of a word up to the end of their place. `done` holds those already read, the
last one first. -/
def parts (fuel : Nat) (p : Place) (done : List Part) : Reader (List Part) :=
  match fuel with
  | 0 => fault "too long"
  | fuel + 1 => do
      let quoted := p.isQuoted
      match ← glued with
      | [] =>
          match p.missing with
          | some message => fault message
          | none => return done.reverse
      | c :: rest =>
          if c == '$' then do
            skip 1
            let part ← dollar fuel quoted
            parts fuel p (part :: done)
          else if c == '\x60' then do
            skip 1
            let body ← grave fuel quoted
            parts fuel p (.command quoted body :: done)
          else if c == '\\' then
            match rest with
            | [] => do
                skip 1
                parts fuel p (.char true '\\' :: done)
            | d :: _ => do
                skip 2
                if p.escapes d then parts fuel p (.char true d :: done)
                else parts fuel p (.char true d :: .char true '\\' :: done)
          else if c == '\'' && !quoted then
            let inside := rest.takeWhile (· != '\'')
            if inside.length == rest.length then do
              skip (rest.length + 1)
              fault "Unterminated quoted string"
            else do
              skip (inside.length + 2)
              parts fuel p (orNothing (inside.map (Part.char true)) ++ done)
          else if c == '"' && p == .quotes then do
            skip 1
            return done.reverse
          else if c == '"' && (!quoted || p == .braces true) then do
            skip 1
            let inside ← parts fuel .quotes []
            parts fuel p (orNothing inside ++ done)
          else
            match p, c with
            | .braces _, '}' => do
                skip 1
                return done.reverse
            | .sum depth, '(' => do
                skip 1
                parts fuel (.sum (depth + 1)) (.char true c :: done)
            | .sum (depth + 1), ')' => do
                skip 1
                parts fuel (.sum depth) (.char true c :: done)
            | .sum 0, ')' => do
                skip 1
                if (← glued).head? == some ')' then
                  skip 1
                  return done.reverse
                else parts fuel p (.char true c :: done)
            | _, _ =>
                if p == .bare && endsWord c then return done.reverse
                else do
                  skip 1
                  parts fuel p (.char quoted c :: done)

/-- Reads the place behind a dollar sign. -/
def dollar (fuel : Nat) (quoted : Bool) : Reader Part :=
  match fuel with
  | 0 => fault "too long"
  | fuel + 1 => do
      match ← glued with
      | '(' :: _ =>
          skip 1
          if (← glued).head? == some '(' then
            skip 1
            return .arithmetic quoted (← parts fuel (.sum 0) [])
          else
            let body ← list fuel false
            let t ← token fuel
            if isOperator ")" t then return .command quoted body
            else unexpected t (some "\")\"")
      | '\x7b' :: _ =>
          skip 1
          braced fuel quoted
      | c :: rest =>
          if isNameStart c then
            let name := c :: rest.takeWhile isNameRest
            skip name.length
            return .parameter quoted name .value []
          else if c.isDigit || isSpecial c then
            skip 1
            return .parameter quoted [c] .value []
          else return .char quoted '$'
      | [] => return .char quoted '$'

/-- Reads the place behind a dollar sign and a brace. -/
def braced (fuel : Nat) (quoted : Bool) : Reader Part :=
  match fuel with
  | 0 => fault "too long"
  | fuel + 1 => do
      match nameIn? (← glued) with
      | none =>
          let _ ← parts fuel (.braces quoted) []
          return .unknown
      | some (name, true) =>
          skip (name.length + 1)
          let closed := (← glued).head? == some '}'
          let _ ← parts fuel (.braces quoted) []
          return if closed then .parameter quoted name .length [] else .unknown
      | some (name, false) =>
          skip name.length
          let rest ← glued
          if rest.head? == some '}' then
            skip 1
            return .parameter quoted name .value []
          else
            match formOf? rest with
            | none =>
                let _ ← parts fuel (.braces quoted) []
                return .unknown
            | some (form, n) =>
                skip n
                let isPattern :=
                  match form with
                  | .withoutStart _ => true
                  | .withoutEnd _ => true
                  | _ => false
                let argument ← parts fuel (.braces (quoted && !isPattern)) []
                return .parameter quoted name form argument

/-- Reads the command behind a grave accent. -/
def grave (fuel : Nat) (quoted : Bool) : Reader Command :=
  match fuel with
  | 0 => fault "too long"
  | fuel + 1 => do
      let s ← get
      match graveText quoted s.rest with
      | none => fault "EOF in backquote substitution"
      | some (inside, n) =>
          set (s.apart inside)
          let body ← list fuel false
          let t ← token fuel
          match t with
          | .finish =>
              set s
              skip n
              return body
          | t => unexpected t none

/-- Reads a token. -/
def token (fuel : Nat) : Reader Token :=
  match fuel with
  | 0 => fault "too long"
  | fuel + 1 => do
      match (← get).ahead with
      | some t =>
          modify fun s => { s with ahead := none }
          return t
      | none =>
          let before := (← get).rest.length
          skipBlanks (before + 1)
          let invited ← isInvited before
          match ← glued with
          | [] => return .finish
          | '\n' :: _ =>
              skip 1
              return .newline
          | rest =>
              match signOf? redirectionSigns rest, signOf? operatorSigns rest with
              | some sign, _ =>
                  skip sign.length
                  return .redirect none sign
              | none, some sign =>
                  skip sign.length
                  return .operator sign
              | none, none =>
                  let w ← parts fuel .bare []
                  match plain? w, signOf? redirectionSigns (← get).rest with
                  | some [d], some sign =>
                      if d.isDigit then
                        skip sign.length
                        return .redirect (some (d.toNat - '0'.toNat)) sign
                      else if invited then unaliased fuel w else return .word w
                  | _, _ => if invited then unaliased fuel w else return .word w

/-- The token that a word is where aliases are replaced. -/
def unaliased (fuel : Nat) (w : Word) : Reader Token :=
  match fuel with
  | 0 => fault "too long"
  | fuel + 1 => do
      if ← replaces w then
        match ← token fuel with
        | .word w => unaliased fuel w
        | t => return t
      else return .word w

/-- The next token, which stays the next one. -/
def peek (fuel : Nat) : Reader Token :=
  match fuel with
  | 0 => fault "too long"
  | fuel + 1 => do
      let t ← token fuel
      putBack t
      return t

/-- The next token where a command may begin, which stays the next one. Aliases are replaced, and
line ends passed over if `newlines`. -/
def opening (fuel : Nat) (newlines : Bool) : Reader Token :=
  match fuel with
  | 0 => fault "too long"
  | fuel + 1 => do
      match ← token fuel with
      | .newline =>
          if newlines then opening fuel newlines
          else
            putBack .newline
            return .newline
      | .word w =>
          let again ← if (keyword? (.word w)).isSome then pure false else replaces w
          if again then opening fuel newlines
          else
            putBack (.word w)
            return .word w
      | t =>
          putBack t
          return t

/-- Passes over line ends. -/
def skipNewlines (fuel : Nat) : Reader Unit :=
  match fuel with
  | 0 => fault "too long"
  | fuel + 1 => do
      match ← token fuel with
      | .newline => skipNewlines fuel
      | t => putBack t

/-- Passes over a reserved word, which must be next. -/
def expect (fuel : Nat) (word : String) : Reader Unit :=
  match fuel with
  | 0 => fault "too long"
  | fuel + 1 => do
      let t ← token fuel
      if keyword? t != some word then unexpected t (some ("\"" ++ word ++ "\""))

/-- Reads the rest of a redirection behind its sign. -/
def redirection (fuel : Nat) (stream : Option Nat) (sign : String) : Reader Redirection :=
  match fuel with
  | 0 => fault "too long"
  | fuel + 1 => do
      match ← token fuel with
      | .word w =>
          let make := fun (standard : Nat) (d : Direction) (w : Word) =>
            (Redirection.mk (stream.getD standard) d w)
          match sign with
          | "<" => return make 0 .input w
          | "<>" => return make 0 .both w
          | "<&" => return make 0 .copy w
          | ">" => return make 1 .output w
          | ">|" => return make 1 .override w
          | ">>" => return make 1 .append w
          | ">&" => return make 1 .copy w
          | _ =>
              let t ← takeInline (wordText w) (sign == "<<-")
              if isQuoted w then return make 0 .inline (quotedWord t)
              else
                let s ← get
                set (s.apart t)
                let body ← parts fuel .inline []
                set s
                return make 0 .inline (.nothing :: body)
      | t => unexpected t none

/-- Reads a list of commands up to a token that ends one. If one is `needed`, it is not empty
unless the source ends. -/
def list (fuel : Nat) (needed : Bool) : Reader Command :=
  match fuel with
  | 0 => fault "too long"
  | fuel + 1 => do
      let t ← opening fuel true
      match t with
      | .finish => return .skip
      | _ =>
          if !needed && endsList t then return .skip
          let c ← andOr fuel
          match ← token fuel with
          | .newline => return andThen c (← list fuel false)
          | .operator ";" => return andThen c (← list fuel false)
          | .operator "&" => return andThen (.background c) (← list fuel false)
          | t =>
              putBack t
              return c

/-- Reads commands of which each depends on the success of the one before. -/
def andOr (fuel : Nat) : Reader Command :=
  match fuel with
  | 0 => fault "too long"
  | fuel + 1 => do
      let c ← pipeline fuel
      andOrRest fuel c

/-- Reads on after the first of such commands. -/
def andOrRest (fuel : Nat) (c : Command) : Reader Command :=
  match fuel with
  | 0 => fault "too long"
  | fuel + 1 => do
      match ← token fuel with
      | .operator "&&" =>
          let d ← pipeline fuel
          andOrRest fuel (.both c d)
      | .operator "||" =>
          let d ← pipeline fuel
          andOrRest fuel (.either c d)
      | t =>
          putBack t
          return c

/-- Reads a pipeline, which may be negated. -/
def pipeline (fuel : Nat) : Reader Command :=
  match fuel with
  | 0 => fault "too long"
  | fuel + 1 => do
      if keyword? (← opening fuel true) == some "!" then
        let _ ← token fuel
        return .negation (← stages fuel)
      else stages fuel

/-- Reads the commands of a pipeline. -/
def stages (fuel : Nat) : Reader Command :=
  match fuel with
  | 0 => fault "too long"
  | fuel + 1 => do
      let c ← command fuel
      match ← token fuel with
      | .operator "|" =>
          let _ ← opening fuel true
          return .pipe c (← stages fuel)
      | t =>
          putBack t
          return c

/-- Reads the redirections behind a command. -/
def redirections (fuel : Nat) (done : List Redirection) : Reader (List Redirection) :=
  match fuel with
  | 0 => fault "too long"
  | fuel + 1 => do
      match ← token fuel with
      | .redirect stream sign =>
          let r ← redirection fuel stream sign
          redirections fuel (done ++ [r])
      | t =>
          putBack t
          return done

/-- Reads one command. -/
def command (fuel : Nat) : Reader Command :=
  match fuel with
  | 0 => fault "too long"
  | fuel + 1 => do
      let _ ← opening fuel false
      let t ← token fuel
      let line := (← get).line
      let finish := fun (c : Command) => do
        match ← redirections fuel [] with
        | [] => return c
        | rs => return .redirected line c rs
      match t, keyword? t with
      | _, some "if" => finish (← branch fuel)
      | _, some "while" => finish (← loop fuel true)
      | _, some "until" => finish (← loop fuel false)
      | _, some "for" => finish (← each fuel line)
      | _, some "case" => finish (← choice fuel line)
      | _, some "\x7b" =>
          let c ← list fuel true
          expect fuel "\x7d"
          finish c
      | _, some _ => unexpected t none
      | .operator "(", _ =>
          let c ← list fuel true
          let t ← token fuel
          if isOperator ")" t then finish (.subshell c) else unexpected t (some "\")\"")
      | .operator _, _ => unexpected t none
      | .finish, _ => unexpected t none
      | .newline, _ => unexpected t none
      | t, _ =>
          putBack t
          simple fuel line {}

/-- Reads a simple command, or the definition of a function. -/
def simple (fuel : Nat) (line : Nat) (s : Simple) : Reader Command :=
  match fuel with
  | 0 => fault "too long"
  | fuel + 1 => do
      let t ← match ← token fuel with
        | .word w => if s.words.isEmpty then unaliased fuel w else pure (.word w)
        | t => pure t
      match t with
      | .redirect stream sign =>
          let r ← redirection fuel stream sign
          simple fuel line { s with redirections := s.redirections ++ [r] }
      | .word w =>
          match s.words, assignment? w with
          | [], some a => simple fuel line { s with assignments := s.assignments ++ [a] }
          | _, _ => simple fuel line { s with words := s.words ++ [w] }
      | t =>
          match s.words, isOperator "(" t && s.assignments.isEmpty && s.redirections.isEmpty with
          | [w], true =>
              let t ← token fuel
              if !isOperator ")" t then unexpected t (some "\")\"")
              match plain? w with
              | some name =>
                  if !isName name || specialNames.contains (String.ofList name) then
                    fault "Bad function name"
                  skipNewlines fuel
                  return .define line name (← command fuel)
              | none => fault "Bad function name"
          | _, _ =>
              putBack t
              return .simple line s.assignments s.words s.redirections

/-- Reads a choice behind its first word. -/
def branch (fuel : Nat) : Reader Command :=
  match fuel with
  | 0 => fault "too long"
  | fuel + 1 => do
      let condition ← list fuel true
      expect fuel "then"
      let yes ← list fuel true
      let t ← token fuel
      match keyword? t with
      | some "elif" => return .branch condition yes (← branch fuel)
      | some "else" =>
          let no ← list fuel true
          expect fuel "fi"
          return .branch condition yes no
      | some "fi" => return .branch condition yes .skip
      | _ => unexpected t (some "\"fi\"")

/-- Reads a loop behind its first word. -/
def loop (fuel : Nat) (expected : Bool) : Reader Command :=
  match fuel with
  | 0 => fault "too long"
  | fuel + 1 => do
      let condition ← list fuel true
      expect fuel "do"
      let body ← list fuel true
      expect fuel "done"
      return .loop expected condition body

/-- Reads words up to another token. -/
def words (fuel : Nat) (done : List Word) : Reader (List Word) :=
  match fuel with
  | 0 => fault "too long"
  | fuel + 1 => do
      match ← token fuel with
      | .word w => words fuel (done ++ [w])
      | t =>
          putBack t
          return done

/-- Reads a loop over fields behind its first word. -/
def each (fuel : Nat) (line : Nat) : Reader Command :=
  match fuel with
  | 0 => fault "too long"
  | fuel + 1 => do
      let name ← match ← token fuel with
        | .word w =>
            match (plain? w).filter isName with
            | some name => pure name
            | none => fault "Bad for loop variable"
        | _ => fault "Bad for loop variable"
      let fields ←
        if keyword? (← opening fuel true) == some "in" then do
          let _ ← token fuel
          let ws ← words fuel []
          match ← token fuel with
          | .newline => pure ws
          | .operator ";" => pure ws
          | t => unexpected t none
        else do
          if isOperator ";" (← peek fuel) then
            let _ ← token fuel
          pure [[Part.parameter true ['@'] .value []]]
      let _ ← opening fuel true
      expect fuel "do"
      let body ← list fuel true
      expect fuel "done"
      return .each line name fields body

/-- Reads a choice among patterns behind its first word. -/
def choice (fuel : Nat) (line : Nat) : Reader Command :=
  match fuel with
  | 0 => fault "too long"
  | fuel + 1 => do
      match ← token fuel with
      | .word subject =>
          let _ ← opening fuel true
          let t ← token fuel
          if keyword? t != some "in" then unexpected t (some "\"in\"")
          return .choice line subject (← cases fuel [])
      | t => unexpected t (some "word")

/-- Reads cases up to the word that ends them. -/
def cases (fuel : Nat) (done : List (List Word × Command)) :
    Reader (List (List Word × Command)) :=
  match fuel with
  | 0 => fault "too long"
  | fuel + 1 => do
      skipNewlines fuel
      let t ← token fuel
      if keyword? t == some "esac" then return done
      if !isOperator "(" t then putBack t
      let ps ← patterns fuel []
      let body ← list fuel false
      let t ← token fuel
      match t with
      | .operator ";;" => cases fuel (done ++ [(ps, body)])
      | t =>
          if keyword? t == some "esac" then return done ++ [(ps, body)]
          else unexpected t (some "\";;\"")

/-- Reads the patterns of a case. -/
def patterns (fuel : Nat) (done : List Word) : Reader (List Word) :=
  match fuel with
  | 0 => fault "too long"
  | fuel + 1 => do
      match ← token fuel with
      | .word w =>
          match ← token fuel with
          | .operator "|" => patterns fuel (done ++ [w])
          | .operator ")" => return done ++ [w]
          | t => unexpected t (some "\")\"")
      | t => unexpected t (some "word")

end

/-- Reads the commands of one line; none if the source has ended. -/
def line? (fuel : Nat) (first : Bool) : Reader (Option Command) :=
  match fuel with
  | 0 => fault "too long"
  | fuel + 1 => do
      match ← opening fuel false with
      | .newline =>
          let _ ← token fuel
          return some .skip
      | .finish => return if first then none else some .skip
      | _ =>
          let c ← andOr fuel
          let more := fun (c : Command) => do
            return (← line? fuel false).map (andThen c)
          match ← token fuel with
          | .newline => return some c
          | .finish => return some c
          | .operator ";" => more c
          | .operator "&" => more (.background c)
          | t => unexpected t none

end Reader

/-- The commands of the next line of a source, and what is left of it; none if it has ended. -/
def nextLine (s : Source) : Except SyntaxFault (Option (Command × Source)) :=
  let added := (s.aliases.map fun a => a.2.length).foldl (· + ·) 1
  match (Reader.line? (8 * (s.rest.length + 1) * added + 64) true).run s with
  | .error fault => .error fault
  | .ok (none, _) => .ok none
  | .ok (some c, left) => .ok (some (c, left))

end Runbook.Shell
