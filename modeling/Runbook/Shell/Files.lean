import Runbook.Shell.Modes
import Runbook.Shell.Pattern

set_option autoImplicit false

/-! # Utilities for files

Making, removing, copying and moving files and directories.
-/

namespace Runbook.Shell

/-- The last name of a path, or a slash if it has none. -/
def lastName (t : Text) : Text :=
  let kept := withoutSlashes t
  if kept.isEmpty then if t.isEmpty then [] else ['/']
  else (kept.reverse.takeWhile (· != '/')).reverse

/-- A path without its last name. -/
def aboveName (t : Text) : Text :=
  let kept := withoutSlashes t
  if kept.isEmpty then if t.isEmpty then ['.'] else ['/']
  else if !kept.contains '/' then ['.']
  else
    let above := withoutSlashes (kept.reverse.dropWhile (· != '/')).reverse
    if above.isEmpty then ['/'] else above

/-- A name behind the path of a directory. -/
def inDirectory (dir name : Text) : Text :=
  if dir.getLast? == some '/' then dir ++ name else dir ++ '/' :: name

/-- The names in a directory, in order. -/
def sortedNames (tree : FileTree) (dir : List Text) : List Text :=
  (tree.namesIn dir).mergeSort fun a b => !Text.before (inward b) (inward a)

/-! ## Making -/

/-- Makes the directories of a path, one below the other, that are not there. -/
def makeAll (verbose : Bool) (start : Text) : List Text → Action (Option (Text × String))
  | [] => return none
  | name :: rest => do
      let path := if start.isEmpty then name else inDirectory start name
      match look? (← get) path with
      | some .directory => makeAll verbose path rest
      | some (.file _ _) =>
          return some (path, if rest.isEmpty then "File exists" else "Not a directory")
      | none =>
          match locate (← get) path with
          | some names =>
              addEntry names .directory 0o777
              if verbose then
                writeLine ("mkdir: created directory ".toList ++ quoted path)
              makeAll verbose path rest
          | none => return some (path, "No such file or directory")

/-- Makes directories, with those above them if asked to. -/
def makeDirectory : List Text → Action Nat :=
  let kinds : OptionKinds := ⟨"pv", "m", [("parents", 'p'), ("verbose", 'v'), ("mode", 'm')]⟩
  withOptions "mkdir" kinds 1 fun g => do
    if g.operands.isEmpty then return ← misused "mkdir" "missing operand".toList 1
    let refuse := fun (t : Text) (reason : String) => do
      complainOf "mkdir" "cannot create directory " (quoted t) reason
      return false
    let mode := (g.value? 'm').map fun t => (t, modeChanges? t)
    if let some (t, none) := mode then
      complainAs "mkdir" ("invalid mode ".toList ++ quoted t)
      return 1
    let mask := (← self).mask
    let changes := mode.bind (·.2)
    let finish := fun (names : List Text) => do
      if let some changes := changes then
        modifySystem (·.setMode names (changedMode changes true mask 0o777))
    eachOf g.operands 1 fun t => do
      let s ← get
      if g.has 'p' && !t.isEmpty then
        let names := ((withoutSlashes t).splitOn '/').filter (!·.isEmpty)
        let start := if t.head? == some '/' then ['/'] else []
        match ← makeAll (g.has 'v') start names with
        | none =>
            if !isDirectory s t then
              if let some there := reached (← get) t then finish there
            return true
        | some (path, reason) => refuse path reason
      else if (look? s (withoutSlashes t)).isSome then refuse t "File exists"
      else
        match locate s t with
        | some names =>
            addEntry names .directory 0o777
            finish names
            if g.has 'v' then writeLine ("mkdir: created directory ".toList ++ quoted t)
            return true
        | none => refuse t (absence s t)

/-! ## Removing -/

/-- Announces what is removed below a directory, and the directory. -/
def tellRemoved (tree : FileTree) : Nat → List Text → Text → Action Unit
  | 0, _, _ => return
  | fuel + 1, names, shown => do
      if tree.entry? names == some .directory then
        for n in sortedNames tree names do
          tellRemoved tree fuel (names ++ [n]) (inDirectory shown (inward n))
        writeLine ("removed directory ".toList ++ quoted shown)
      else writeLine ("removed ".toList ++ quoted shown)

/-- Removes files, and directories if asked to. -/
def remove : List Text → Action Nat :=
  let kinds : OptionKinds := ⟨"dfiIrRv", "", [
    ("force", 'f'), ("recursive", 'r'), ("verbose", 'v'),
    ("dir", 'd')]⟩
  withOptions "rm" kinds 1 fun g => do
    let deep := g.has 'r' || g.has 'R'
    let forced := g.has 'f'
    if g.operands.isEmpty then
      return ← if forced then return 0 else misused "rm" "missing operand".toList 1
    let refuse := fun (t : Text) (reason : String) => do
      complainOf "rm" "cannot remove " (quoted t) reason
      return false
    eachOf g.operands 1 fun t => do
      let s ← get
      match look? s t, locate s t with
      | some e, some names =>
          let last := lastName t
          if e == .directory && deep && names.isEmpty then
            complainAs "rm" "it is dangerous to operate recursively on '/'".toList
            complainAs "rm" "use --no-preserve-root to override this failsafe".toList
            return false
          else if e == .directory && deep && (last == ['.'] || last == ['.', '.']) then
            complainAs "rm" ("refusing to remove '.' or '..' directory: skipping ".toList ++
              quoted t)
            return false
          else if e == .directory && !deep && !g.has 'd' then refuse t "Is a directory"
          else if e == .directory && !deep && !(s.system.tree.namesIn names).isEmpty then
            refuse t "Directory not empty"
          else
            if g.has 'v' then tellRemoved s.system.tree 64 names t
            removeEntry names
            return true
      | _, _ => if forced then return true else refuse t (absence s t)

/-- Removes empty directories, with those above them if asked to. -/
def removeDirectory : List Text → Action Nat :=
  let kinds : OptionKinds := ⟨"pv", "", [("parents", 'p'), ("verbose", 'v'),
    ("ignore-fail-on-non-empty", 'i')]⟩
  withOptions "rmdir" kinds 1 fun g => do
    if g.operands.isEmpty then return ← misused "rmdir" "missing operand".toList 1
    eachOf g.operands 1 fun t => do
      let count := (t.filter (· == '/')).length
      let paths := if g.has 'p' then (List.range (count + 1)).map fun n => Nat.repeat aboveName n t
        else [t]
      let status ← eachOf (paths.filter fun p => p != ['.'] || t == ['.']) 1 fun t => do
        let s ← get
        let refuse := fun (reason : String) => do
          if g.has 'i' && reason == "Directory not empty" then return true
          complainOf "rmdir" "failed to remove " (quoted t) reason
          return false
        if g.has 'v' then writeLine ("rmdir: removing directory, ".toList ++ quoted t)
        match look? s t, locate s t with
        | some .directory, some names =>
            if lastName t == ['.'] then refuse "Invalid argument"
            else if !(s.system.tree.namesIn names).isEmpty then refuse "Directory not empty"
            else
              removeEntry names
              return true
        | some (.file _ _), _ => refuse "Not a directory"
        | _, _ => refuse (absence s t)
      return status == 0

/-! ## Copying and moving -/

/-- How a copy is made. -/
structure Transfer where
  /-- The name of the utility. -/
  name : String
  moves : Bool
  deep : Bool
  verbose : Bool
  /-- Whether files that are there are left alone. -/
  keeps : Bool
  /-- Whether they are left alone unless they are older. -/
  updates : Bool
  /-- Whether copies are as old as what they are copies of, and have the same permissions. -/
  isExact : Bool

/-- The system with what stands at one place and below it copied to another one. A file that is
there already keeps its other names and its permissions; others have the same as what they are
copies of, less those of a mask. -/
def System.copy (s : System) (source target : List Text) (mask : Nat) (exact : Bool) : System :=
  s.tree.entries.foldl (fun done (names, e) =>
    if source.isPrefixOf names then
      let there := target ++ names.drop source.length
      let copied := match e, done.tree.entry? there with
        | .directory, some _ => done
        | .file bytes _, some (.file _ runnable) => done.setEntry there (.file bytes runnable)
        | e, _ => done.make there e (s.modeOf names) mask
      if exact then (copied.mark there (s.timeOf names)).setMode there (s.modeOf names)
      else copied
    else done) s

/-- Announces what is copied. -/
def tellCopied (tree : FileTree) : Nat → List Text → Text → Text → Action Unit
  | 0, _, _, _ => return
  | fuel + 1, names, source, target => do
      writeLine (quoted source ++ " -> ".toList ++ quoted target)
      if tree.entry? names == some .directory then
        for n in sortedNames tree names do
          tellCopied tree fuel (names ++ [n]) (inDirectory source (inward n))
            (inDirectory target (inward n))

/-- Copies or moves one file or directory, and says whether that was possible. -/
def Transfer.one (x : Transfer) (source target : Text) : Action Bool := do
  let s ← get
  let refuse := fun (message : Text) => do
    complainAs x.name message
    return false
  let there := look? s (if x.moves then withoutSlashes target else target)
  let isSpecial := fun (t : Text) => (look? s t).isSome && (reached s t).isNone
  if !x.moves && (isSpecial source || (isSpecial target && (file? s source).isSome)) then
    -- What a device or a stream holds is copied like the bytes of a file.
    match ← content source with
    | .error reason =>
        refuse ("error reading ".toList ++ quoted source ++ ": ".toList ++ reason.toList)
    | .ok bytes =>
        match ← store target bytes with
        | none => return true
        | some reason =>
            refuse ("cannot create regular file ".toList ++ quoted target ++ ": ".toList ++
              reason.toList)
  else
  match look? s source, reached s source with
  | some e, some origin =>
      if e == .directory && !x.deep then
        refuse ("-r not specified; omitting directory ".toList ++ quoted source)
      else if there.isSome && (x.keeps || (x.updates && e != .directory &&
          (reached s target).any fun names => s.system.timeOf origin ≤ s.system.timeOf names)) then
        return true
      else
        let isInside := e == .directory &&
          (locate s (withoutSlashes target)).any fun names => origin.isPrefixOf names
        let isSame := (reached s target).any (s.system.namesOf origin).contains &&
          !(x.moves && reached s target != some origin)
        if isSame && e != .directory then
          refuse (quoted source ++ " and ".toList ++ quoted target ++ " are the same file".toList)
        else
          match e, there with
          | .directory, some (.file _ _) =>
              refuse ("cannot overwrite non-directory ".toList ++ quoted target ++
                " with directory ".toList ++ quoted source)
          | .file _ _, some .directory =>
              refuse ("cannot overwrite directory ".toList ++ quoted target ++
                " with non-directory".toList)
          | _, _ =>
              if isInside then
                refuse (if x.moves then
                  "cannot move ".toList ++ quoted source ++ " to a subdirectory of itself, ".toList
                    ++ quoted target
                else
                  "cannot copy a directory, ".toList ++ quoted source ++
                    ", into itself, ".toList ++ quoted target)
              else
                let full := (reached s target).any fun names =>
                  !(s.system.tree.namesIn names).isEmpty
                let plain := if e == .directory then withoutSlashes target else target
                match locate s plain with
                | some names =>
                    if x.moves && e == .directory && full then
                      refuse ("cannot overwrite ".toList ++ quoted target ++
                        ": Directory not empty".toList)
                    else if e != .directory && target.getLast? == some '/' then
                      refuse (obstacle e source target "Not a directory")
                    else
                      if x.verbose then
                        if x.moves then
                          writeLine ("renamed ".toList ++ quoted source ++ " -> ".toList ++
                            quoted target)
                        else tellCopied s.system.tree 64 origin source target
                      let mask := s.process.mask
                      modifySystem fun s =>
                        if x.moves then (s.remove names).move origin names
                        else s.copy origin names mask x.isExact
                      return true
                | none => refuse (obstacle e source target (absence s target))
  | _, _ =>
      refuse ("cannot stat ".toList ++ quoted source ++ ": ".toList ++ (absence s source).toList)
where
  /-- What stands in the way, in words. -/
  obstacle (e : Entry) (source target : Text) (reason : String) : Text :=
    (if x.moves then "cannot move ".toList ++ quoted source ++ " to ".toList
      else if e == .directory then "cannot create directory ".toList
      else "cannot create regular file ".toList) ++ quoted target ++ ": ".toList ++ reason.toList

/-- Copies or moves files to the last operand, into it if it is a directory. -/
def transfer (moves : Bool) : List Text → Action Nat :=
  let kinds : OptionKinds := ⟨if moves then "finuvT" else "adfilLnpPrRsuvxHT", "tS",
    [("recursive", 'r'), ("force", 'f'), ("no-clobber", 'n'), ("verbose", 'v'), ("archive", 'a'),
      ("target-directory", 't'), ("no-target-directory", 'T'), ("update", 'u')]⟩
  let name := if moves then "mv" else "cp"
  withOptions name kinds 1 fun g => do
    let x : Transfer := {
      name, moves
      deep := moves || g.has 'r' || g.has 'R' || g.has 'a'
      verbose := g.has 'v'
      keeps := g.has 'n'
      updates := g.has 'u'
      isExact := g.has 'p' || g.has 'a' }
    let sources := if (g.value? 't').isSome then g.operands else g.operands.dropLast
    match g.value? 't' <|> g.operands.getLast?, g.operands with
    | _, [] => misused name "missing file operand".toList 1
    | none, _ => misused name "missing file operand".toList 1
    | some target, first :: _ =>
        if sources.isEmpty then
          misused name ("missing destination file operand after ".toList ++ quoted first) 1
        else
          let s ← get
          let into := isDirectory s target && !g.has 'T'
          if !into && (sources.length > 1 || g.has 't') then
            let reason := if (look? s target).isSome then "Not a directory" else absence s target
            complainOf name "target " (quoted target) reason
            return 1
          eachOf sources 1 fun t =>
            x.one t (if into then inDirectory target (lastName t) else target)

/-- Gives files another name besides their own. -/
def link : List Text → Action Nat :=
  let kinds : OptionKinds := ⟨"bdfFinLPrsTv", "St", [("symbolic", 's'), ("force", 'f'),
    ("verbose", 'v')]⟩
  withOptions "ln" kinds 1 fun g => do
    match g.operands with
    | [] => misused "ln" "missing file operand".toList 1
    | first :: rest =>
        let target := if rest.isEmpty then ['.'] else (rest.getLast?).getD []
        let sources := if rest.isEmpty then [first] else g.operands.dropLast
        let into := isDirectory (← get) target
        if !into && sources.length > 1 then
          complainOf "ln" "target " (quoted target) (absence (← get) target)
          return 1
        eachOf sources 1 fun t => do
          let s ← get
          let place := if into then inDirectory target (lastName t) else target
          let refuse := fun (message : Text) => do
            complainAs "ln" message
            return false
          match look? s t with
          | none =>
              refuse ("failed to access ".toList ++ quoted t ++ ": ".toList ++
                (absence s t).toList)
          | some .directory => refuse (t ++ ": hard link not allowed for directory".toList)
          | some (.file _ _) =>
              let kind := if g.has 's' then "symbolic" else "hard"
              let failed := fun (reason : String) =>
                refuse ("failed to create ".toList ++ kind.toList ++ " link ".toList ++
                  quoted place ++ ": ".toList ++ reason.toList)
              if (look? s place).isSome && !g.has 'f' then failed "File exists"
              else
                match writable s place with
                | .ok names =>
                    let origin := (reached s t).getD []
                    if !(s.system.namesOf origin).contains names then
                      modifySystem (·.join origin names)
                    return true
                | .error reason => failed reason

/-! ## Names -/

/-- Prints the last names of paths, without an ending if one is given. -/
def baseName : List Text → Action Nat :=
  let kinds : OptionKinds := ⟨"az", "s", [("multiple", 'a'), ("suffix", 's')]⟩
  withOptions "basename" kinds 1 fun g => do
    let many := g.has 'a' || g.has 's'
    match g.operands with
    | [] => misused "basename" "missing operand".toList 1
    | t :: rest =>
        if !many && rest.length > 1 then
          return ← misused "basename" ("extra operand ".toList ++
            quoted ((rest.drop 1).head?.getD [])) 1
        let ending := if many then (g.value? 's').getD [] else rest.head?.getD []
        for t in (if many then g.operands else [t]) do
          let name := lastName t
          writeLine (if ending.isSuffixOf name && ending != name then
            name.take (name.length - ending.length) else name)
        return 0

/-- Prints paths without their last names. -/
def directoryName : List Text → Action Nat :=
  withOptions "dirname" { plain := "z" } 1 fun g => do
    if g.operands.isEmpty then return ← misused "dirname" "missing operand".toList 1
    write (Text.terminated (g.operands.map aboveName))
    return 0

/-- Prints where paths lead to. -/
def realPath : List Text → Action Nat :=
  withOptions "realpath" { plain := "efmqsz" } 1 fun g => do
    if g.operands.isEmpty then return ← misused "realpath" "missing operand".toList 1
    eachOf g.operands 1 fun t => do
      let s ← get
      match locate s t with
      | some names =>
          if g.has 'e' && (look? s t).isNone then
            complainOf "realpath" "" (named t) (absence s t)
            return false
          writeLine ('/' :: Text.join ['/'] (names.map inward))
          return true
      | none =>
          complainOf "realpath" "" (named t) (absence s t)
          return false

end Runbook.Shell
