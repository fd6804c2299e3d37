import Runbook.Shell.Stream

set_option autoImplicit false

/-! # Places in the file tree

What a text names that is used as a path: an entry of the tree, a device, or something that is
open already, and if it names nothing, what stands in the way. The directory of devices has names
also for the streams of the process.
-/

namespace Runbook.Shell

/-! ## Paths -/

/-- The path that a text names. -/
def pathOf (t : Text) : Path := Path.ofText ((outward? t).getD t)

/-- The directory from which a path is followed. -/
def startOf (s : State) (p : Path) : List Text := if p.isAbsolute then [] else s.process.directory

/-- Whether a path is too long, or comes to a name that is. -/
def isOverlong (s : State) (t : Text) : Bool :=
  let p := pathOf t
  FileTree.pathLimit < t.length || s.system.tree.meetsLongName (startOf s p) p.parts

/-- The names from the root of the file that a text names. It need not exist, but the directory
it is in must. -/
def locate (s : State) (t : Text) : Option (List Text) :=
  let p := pathOf t
  let start := startOf s p
  if t.isEmpty || isOverlong s t then none
  else
    match p.parts.getLast? with
    | none => some start
    | some last =>
        match s.system.tree.follow start p.parts.dropLast with
        | some dir =>
            if s.system.tree.entry? dir == some .directory then
              some (if last == ['.', '.'] then dir.dropLast else dir ++ [last])
            else none
        | none => none

/-- Whether a path leads through something that is no directory. -/
def blocked (s : State) (t : Text) : Bool :=
  let p := pathOf t
  (List.range (p.parts.length)).any fun n =>
    match s.system.tree.follow (startOf s p) (p.parts.take n) with
    | some dir =>
        match s.system.tree.entry? dir with
        | some (.file _ _) => true
        | _ => false
    | none => false

/-- A path without the slashes that end it. -/
def withoutSlashes (t : Text) : Text := (t.reverse.dropWhile (· == '/')).reverse

/-! ## Devices and streams -/

/-- The devices by their names. -/
def devices : List (String × Device) :=
  [("null", .null), ("zero", .zero), ("full", .full), ("random", .random), ("urandom", .random)]

/-- The directories whose entries are the streams of the process. -/
def streamDirectories : List (List Text) :=
  [["dev".toList, "fd".toList], ["proc".toList, "self".toList, "fd".toList]]

/-- The names of the standard streams. -/
def streamNames : List (String × Nat) := [("stdin", 0), ("stdout", 1), ("stderr", 2)]

/-- The device of a name in the directory of devices. -/
def deviceAt? (names : List Text) : Option Device :=
  match names with
  | [dir, name] =>
      if dir == "dev".toList then (devices.find? (·.1.toList == name)).map (·.2) else none
  | _ => none

/-- The stream of a name. -/
def streamAt? (names : List Text) : Option Nat :=
  let byName := match names with
    | [dir, name] =>
        if dir == "dev".toList then (streamNames.find? (·.1.toList == name)).map (·.2) else none
    | _ => none
  let name := (names.getLast?).getD []
  if streamDirectories.contains names.dropLast && !name.isEmpty && name.all Char.isDigit then
    some (name.foldl (fun n c => n * 10 + (c.toNat - '0'.toNat)) 0)
  else byName

/-- What a text names. -/
inductive Place where
  | entry (names : List Text) (e : Entry)
  | device (d : Device)
  /-- Something that is open already, by its number. -/
  | opened (file : Nat) (target : Target)

/-- What stands at the place that a text names. -/
def place? (s : State) (t : Text) : Option Place :=
  (locate s t).bind fun names =>
    match deviceAt? names, streamAt? names with
    | some d, _ => some (.device d)
    | none, some n =>
        (s.stream? n).bind fun (i, f) =>
          match f.target with
          | .file names => (s.system.tree.entry? names).map (.entry names)
          | .device d => some (.device d)
          | target => some (.opened i target)
    | none, none =>
        (s.system.tree.entry? names).bind fun e =>
          if t.getLast? == some '/' && e != .directory then none
          else (s.system.tree.follow names []).map fun names => .entry names e

/-- The entry of the tree at the place that a text names. Devices and streams count as empty
files. -/
def look? (s : State) (t : Text) : Option Entry :=
  (place? s t).map fun p =>
    match p with
    | .entry _ e => e
    | _ => .file [] false

/-- The names from the root of the entry that a text names. -/
def reached (s : State) (t : Text) : Option (List Text) :=
  match place? s t with
  | some (.entry names _) => some names
  | _ => none

/-- Whether a text names a device. -/
def isDevice (s : State) (t : Text) : Bool :=
  match place? s t with
  | some (.device _) => true
  | _ => false

/-- The bytes of the file that a text names. -/
def file? (s : State) (t : Text) : Option (List UInt8) :=
  match place? s t with
  | some (.entry _ (.file bytes _)) => some bytes
  | _ => none

/-- Whether a text names a directory. -/
def isDirectory (s : State) (t : Text) : Bool := look? s t == some .directory

/-- The name of the terminal, of which there is none. -/
def terminalName : Text := "/dev/tty".toList

/-- What stands in the way of a path that leads to nothing, in the words of the system. -/
def absence (s : State) (t : Text) : String :=
  let whole := t.getLast? == some '/' && (file? s (withoutSlashes t)).isSome
  if isOverlong s t then "File name too long"
  else if t == terminalName then "No such device or address"
  else if blocked s t || whole then "Not a directory"
  else "No such file or directory"

/-- Where a file can be written that a text names, or what stands in the way. -/
def writable (s : State) (t : Text) : Except String (List Text) :=
  if isDirectory s t then .error "Is a directory"
  else if t == terminalName then .error (absence s t)
  else if t.getLast? == some '/' then
    .error (if (locate s t).isSome && !blocked s t && (look? s (withoutSlashes t)).isNone then
      "Is a directory" else absence s t)
  else
    match locate s t with
    | some names =>
        if (streamAt? names).isSome && (place? s t).isNone then .error "No such file or directory"
        else .ok ((reached s t).getD names)
    | none => .error (absence s t)

/-! ## Opening -/

/-- Opens what a text names for reading, or tells what stands in the way. -/
def openToRead (t : Text) : Action (Except String Nat) := do
  let s ← get
  match place? s t with
  | some (.entry names _) =>
      return .ok (← openFile { target := .file names, writable := false })
  | some (.device d) => return .ok (← openFile { target := .device d, writable := false })
  | some (.opened _ (.sink n)) =>
      return .ok (← openFile { target := .source n, writable := false })
  | some (.opened i _) => return .ok i
  | none => return .error (absence s t)

/-- How a file is opened for writing. -/
structure Writing where
  /-- Whether the file keeps what it holds. -/
  keeps : Bool := false
  appends : Bool := false
  readable : Bool := false

/-- Opens what a text names for writing, or tells what stands in the way. A file that is not there
is made. -/
def openToWrite (w : Writing) (t : Text) : Action (Except String Nat) := do
  let s ← get
  match place? s t with
  | some (.device d) => return .ok (← openFile { target := .device d, readable := w.readable })
  | some (.opened _ (.source n)) =>
      return .ok (← openFile { target := .sink n, readable := false })
  | some (.opened i _) => return .ok i
  | _ =>
      match writable s t with
      | .error reason => return .error reason
      | .ok names =>
          let old := s.system.tree.entry? names
          if old.isNone || !w.keeps then
            let runnable := match old with
              | some (.file _ runnable) => runnable
              | _ => false
            let mask := s.process.mask
            modifySystem fun s => if old.isSome then s.setEntry names (.file [] runnable)
              else s.make names (.file [] runnable) 0o666 mask
          return .ok (← openFile
            { target := .file names, readable := w.readable, appends := w.appends })

end Runbook.Shell
