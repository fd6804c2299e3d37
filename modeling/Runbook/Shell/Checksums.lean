import Runbook.Shell.Arithmetic
import Runbook.Shell.Digest

set_option autoImplicit false

/-! # Digests of files, and bytes as plain text

The utilities that print digests of files, or check files against digests that were printed before,
and those that write bytes with letters and digits only.
-/

namespace Runbook.Shell

/-! ## Printing digests -/

/-- A digest: what its utility and it are called, how many digits it has, and how it is made. -/
structure DigestKind where
  utility : String
  tag : String
  digits : Nat
  make : Text → Text

/-- The digests. -/
def digestKinds : List DigestKind := [⟨"md5sum", "MD5", 32, Digest.md5⟩,
  ⟨"sha1sum", "SHA1", 40, Digest.sha1⟩, ⟨"sha224sum", "SHA224", 56, Digest.sha224⟩,
  ⟨"sha256sum", "SHA256", 64, Digest.sha256⟩, ⟨"sha384sum", "SHA384", 96, Digest.sha384⟩,
  ⟨"sha512sum", "SHA512", 128, Digest.sha512⟩]

/-- A name in one line, and whether it had to be changed for that. -/
def nameInLine (t : Text) : Text × Bool :=
  (t.flatMap fun c => match c with
    | '\\' => ['\\', '\\']
    | '\n' => ['\\', 'n']
    | '\r' => ['\\', 'r']
    | c => [c], t.any fun c => c == '\\' || c == '\n' || c == '\r')

/-- The name that one line stands for. -/
def nameOfLine : Text → Text
  | '\\' :: 'n' :: rest => '\n' :: nameOfLine rest
  | '\\' :: 'r' :: rest => '\r' :: nameOfLine rest
  | '\\' :: '\\' :: rest => '\\' :: nameOfLine rest
  | c :: rest => c :: nameOfLine rest
  | [] => []

/-- The line that tells the digest of a file. -/
def digestLine (k : DigestKind) (tagged binary zero : Bool) (digits name : Text) : Text :=
  let (shown, changed) := if zero then (name, false) else nameInLine name
  let mark := if changed then ['\\'] else []
  let body := if tagged then k.tag.toList ++ " (".toList ++ shown ++ ") = ".toList ++ digits
    else digits ++ ' ' :: (if binary then '*' else ' ') :: shown
  mark ++ body ++ [if zero then '\x00' else '\n']

/-- A byte that may stand between the digits and the name. -/
def isNameGap (c : Char) : Bool := c == ' ' || c == '\t'

/-- The digits and the name in a line that tells the digest of a file. -/
def readDigestLine? (k : DigestKind) (l : Text) : Option (Text × Text) :=
  let l := l.dropWhile isNameGap
  let (changed, l) := match l with
    | '\\' :: rest => (true, rest)
    | l => (false, l)
  let name := fun (t : Text) => if changed then nameOfLine t else t
  let areDigits := fun (t : Text) => t.length == k.digits && t.all (isDigitIn 16)
  let tag := k.tag.toList ++ " (".toList
  if tag.isPrefixOf l then
    let digits := (l.reverse.takeWhile (isDigitIn 16)).reverse
    let before := (l.drop tag.length).take (l.length - tag.length - digits.length)
    let ending := ") = ".toList
    if areDigits digits && ending.isSuffixOf before then
      some (digits, name (before.take (before.length - ending.length)))
    else none
  else
    let digits := l.take k.digits
    match l.drop k.digits with
    | gap :: c :: rest =>
        if !areDigits digits || !isNameGap gap then none
        else if c == ' ' || c == '*' then if rest.isEmpty then none else some (digits, name rest)
        else some (digits, name (c :: rest))
    | _ => none

/-- How many lines and files there have been of each sort in a check. -/
structure Tally where
  proper : Nat := 0
  improper : Nat := 0
  unread : Nat := 0
  wrong : Nat := 0
  right : Nat := 0

/-- Checks the file that a line names. -/
def checkLine (k : DigestKind) (g : Given) (file : Text) (number : Nat) (l : Text) (t : Tally) :
    Action Tally := do
  if l.isEmpty || l.head? == some '#' then return t
  match readDigestLine? k l with
  | none =>
      if g.has 'w' then
        complainAs k.utility (named file ++ ": ".toList ++ Text.ofNat number ++
          ": improperly formatted ".toList ++ k.tag.toList ++ " checksum line".toList)
      return { t with improper := t.improper + 1 }
  | some (digits, name) =>
      let t := { t with proper := t.proper + 1 }
      let told := fun (what : String) => do
        let (shown, changed) := nameInLine name
        writeLine ((if changed then ['\\'] else []) ++ shown ++ ": ".toList ++ what.toList)
      match ← content name with
      | .error reason =>
          if g.has 'M' && reason == "No such file or directory" then return t
          complainOf k.utility "" (named name) reason
          if !g.has 's' then told "FAILED open or read"
          return { t with unread := t.unread + 1 }
      | .ok bytes =>
          if Digest.inHex (k.make bytes) == digits.map Char.toLower then
            if !g.has 's' && !g.has 'q' then told "OK"
            return { t with right := t.right + 1 }
          if !g.has 's' then told "FAILED"
          return { t with wrong := t.wrong + 1 }

/-- Checks the files that the lines of a file name, and says whether all is well. -/
def checkFile (k : DigestKind) (g : Given) (file : Text) : Action Bool := do
  let shown := if file == ['-'] then "standard input".toList else file
  match ← content file with
  | .error reason =>
      complainOf k.utility "" (named file) reason
      return false
  | .ok bytes =>
      let mut t : Tally := {}
      for (l, n) in (linesIn bytes).zipIdx do t ← checkLine k g shown (n + 1) l t
      if t.proper == 0 then
        complainAs k.utility (named shown ++
          ": no properly formatted checksum lines found".toList)
        return false
      let warn := fun (n : Nat) (one many : String) => do
        if n != 0 && !g.has 's' then
          complainAs k.utility ("WARNING: ".toList ++ Text.ofNat n ++ ' ' ::
            (if n == 1 then one else many).toList)
      warn t.improper "line is improperly formatted" "lines are improperly formatted"
      warn t.unread "listed file could not be read" "listed files could not be read"
      warn t.wrong "computed checksum did NOT match" "computed checksums did NOT match"
      let none := g.has 'M' && t.right == 0
      if none && !g.has 's' then
        complainAs k.utility (named shown ++ ": no file was verified".toList)
      return !none && t.unread == 0 && t.wrong == 0 && !(g.has 'S' && t.improper != 0)

/-- Prints the digests of files, or checks them. -/
def showDigests (k : DigestKind) : List Text → Action Nat :=
  let kinds : OptionKinds := ⟨"bctwz", "", [("binary", 'b'), ("check", 'c'), ("text", 't'),
    ("warn", 'w'), ("zero", 'z'), ("tag", 'T'), ("quiet", 'q'), ("status", 's'), ("strict", 'S'),
    ("ignore-missing", 'M')]⟩
  withOptions k.utility kinds 1 fun g => do
    let onlyChecking := [('M', "ignore-missing"), ('s', "status"), ('w', "warn"), ('q', "quiet"),
      ('S', "strict")]
    match onlyChecking.find? fun (c, _) => g.has c && !g.has 'c' with
    | some (_, name) =>
        misused k.utility ("the --".toList ++ name.toList ++
          " option is meaningful only when verifying checksums".toList) 1
    | none =>
        if g.has 'c' then
          if g.has 'T' then
            misused k.utility
              "the --tag option is meaningless when verifying checksums".toList 1
          else eachOf g.inputs 1 (checkFile k g)
        else
          eachOf g.inputs 1 fun t => do
            match ← content t with
            | .ok bytes =>
                let binary := g.last? "bt" == some 'b'
                write (digestLine k (g.has 'T') binary (g.has 'z')
                  (Digest.inHex (k.make bytes)) t)
                return true
            | .error reason =>
                complainOf k.utility "" (named t) reason
                return false

/-! ## Printing sums -/

/-- How often a size goes into a number, rounded up. -/
def blocksOf (size n : Nat) : Text := Text.ofNat ((n + size - 1) / size)

/-- A number in front of which blanks or zeros are put. -/
def wideNumber (filler : Char) (width n : Nat) : Text :=
  let t := Text.ofNat n
  List.replicate (width - t.length) filler ++ t

/-- What is printed of the bytes of a file for a sum of a name. -/
def sumLine (kind : String) (bytes : Text) : Text :=
  let size := bytes.length
  match kind with
  | "bsd" =>
      let blocks := blocksOf 1024 size
      wideNumber '0' 5 (Digest.turnedSum bytes) ++ ' ' ::
        List.replicate (5 - blocks.length) ' ' ++ blocks
  | "sysv" => Text.ofNat (Digest.plainSum bytes) ++ ' ' :: blocksOf 512 size
  | _ => Text.ofNat (Digest.remainder bytes) ++ ' ' :: Text.ofNat size

/-- Prints sums of files. -/
def showSums (name kind : String) (g : Given) : Action Nat :=
  eachOf g.inputs 1 fun t => do
    match ← content t with
    | .ok bytes =>
        writeLine (sumLine kind bytes ++ if g.operands.isEmpty then [] else ' ' :: t)
        return true
    | .error reason =>
        complainOf name "" (named t) reason
        return false

/-- Prints the sums of files that are turned, or plain ones. -/
def showShortSums : List Text → Action Nat :=
  withOptions "sum" ⟨"rs", "", [("sysv", 's')]⟩ 1 fun g =>
    showSums "sum" (if g.last? "rs" == some 's' then "sysv" else "bsd") g

/-- Prints remainders of files, or digests of another kind. -/
def showRemainders : List Text → Action Nat :=
  let kinds : OptionKinds := ⟨"z", "a", [("algorithm", 'a'), ("untagged", 'U'), ("tag", 'T'),
    ("zero", 'z')]⟩
  withOptions "cksum" kinds 1 fun g => do
    let kind := (g.value? 'a').getD "crc".toList
    let lists := ["bsd", "sysv", "crc", "md5", "sha1", "sha224", "sha256", "sha384", "sha512",
      "blake2b", "sm3"]
    match digestKinds.find? fun k => k.tag.toList == kind.map Char.toUpper with
    | some k =>
        let tagged := g.last? "UT" != some 'U'
        eachOf g.inputs 1 fun t => do
          match ← content t with
          | .ok bytes =>
              write (digestLine k tagged false (g.has 'z') (Digest.inHex (k.make bytes)) t)
              return true
          | .error reason =>
              complainOf "cksum" "" (named t) reason
              return false
    | none =>
        if lists.any (·.toList == kind) then showSums "cksum" (String.ofList kind) g
        else
          complainAs "cksum" ("invalid argument ".toList ++ quoted kind ++
            " for '--algorithm'".toList)
          complain "Valid arguments are:".toList
          for t in lists do complain ("  - '".toList ++ t.toList ++ ['\''])
          complain "Try 'cksum --help' for more information.".toList
          return 1

/-! ## Bytes as plain text -/

/-- A way to write bytes: its name, its digits, how many bits one of them has, how many of them
belong together, and before which of those a group may end. -/
structure Plain where
  utility : String
  digits : Text
  bits : Nat
  group : Nat
  ends : List Nat

/-- Digits of six bits. -/
def plain64 : Plain := ⟨"base64",
  "ABCDEFGHIJKLMNOPQRSTUVWXYZabcdefghijklmnopqrstuvwxyz0123456789+/".toList, 6, 4, [2, 3]⟩

/-- Digits of five bits. -/
def plain32 : Plain := ⟨"base32", "ABCDEFGHIJKLMNOPQRSTUVWXYZ234567".toList, 5, 8, [2, 4, 5, 7]⟩

/-- The digits of a group of bytes, filled up with signs for equal. -/
def Plain.encoded (k : Plain) (bytes : Text) : Text :=
  let size := k.group * k.bits / 8
  let n := Digest.number (bytes ++ List.replicate (size - bytes.length) '\x00')
  let used := (bytes.length * 8 + k.bits - 1) / k.bits
  (List.range k.group).map fun i =>
    if used ≤ i then '='
    else
      let place := n / Double.twoTo ((k.group - 1 - i) * k.bits) % Double.twoTo k.bits
      (k.digits[place]?).getD '='

/-- The bytes of digits, and whether there is nothing wrong with these. `n` is the number that the
bits left make, `bits` how many these are, and `place` how many digits of the group there have
been. -/
def Plain.decoded (k : Plain) : Text → Nat → Nat → Nat → Text × Bool
  | [], place, _, _ => ([], place == 0)
  | c :: rest, place, bits, n =>
      match k.digits.findIdx? (· == c) with
      | some d =>
          let n := n * Double.twoTo k.bits + d
          let bits := bits + k.bits
          let next := (place + 1) % k.group
          if 8 ≤ bits then
            let left := Double.twoTo (bits - 8 : Nat)
            let (bytes, good) := k.decoded rest next (bits - 8) (n % left)
            (Char.ofNat (n / left % 256) :: bytes, good)
          else k.decoded rest next bits n
      | none =>
          let fill := k.group - place - 1
          if c == '=' && k.ends.contains place && rest.take fill == List.replicate fill '=' then
            k.decoded (rest.drop fill) 0 0 0
          else ([], false)
termination_by t => t.length
decreasing_by all_goals (simp only [List.length_cons, List.length_drop]; omega)

/-- Prints bytes in digits, or the bytes that digits stand for. -/
def writePlain (k : Plain) : List Text → Action Nat :=
  let kinds : OptionKinds := ⟨"di", "w", [("decode", 'd'), ("ignore-garbage", 'i'), ("wrap", 'w')]⟩
  withOptions k.utility kinds 1 fun g => do
    let width := (g.value? 'w').getD "76".toList
    if width.isEmpty || !width.all Char.isDigit then
      complainAs k.utility ("invalid wrap size: ".toList ++ quoted width)
      return 1
    match g.operands with
    | _ :: extra :: _ => misused k.utility ("extra operand ".toList ++ quoted extra) 1
    | _ =>
        let file := g.operands.head?.getD ['-']
        match ← content file with
        | .error reason =>
            complainOf k.utility "" (named file) reason
            return 1
        | .ok bytes =>
            if g.has 'd' then
              let kept := bytes.filter fun c =>
                c != '\n' && (!g.has 'i' || c == '=' || k.digits.contains c)
              let (made, good) := k.decoded kept 0 0 0
              write made
              if !good then complainAs k.utility "invalid input".toList
              return if good then 0 else 1
            else
              let groups := piecesOfSize (k.group * k.bits / 8) (bytes.length + 1) bytes
              let t := groups.flatMap k.encoded
              let width := inBase 10 width
              if width == 0 then write t
              else write (Text.terminated (piecesOfSize width (t.length + 1) t))
              return 0

end Runbook.Shell
