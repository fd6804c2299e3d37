import Runbook.Document.Scalar

set_option autoImplicit false

/-! # Nodes of a settings document

A document is a tree of nodes: scalars, lists and tables, each with a tag if one is written. The
plain scalar `=` stands for the default value of a table and `<<` for the entries of another one;
as the key of an entry the first is a text, and the second is replaced by the entries that it
stands for.

Not every node has a value. Of the faults of a document the first one counts, where the nodes
nearer to the root come first, and then those further up in the text.
-/

namespace Runbook.Document

/-- A node of a document. -/
inductive Node where
  | scalar (tag : Option Text) (plain : Bool) (text : Wide)
  | items (tag : Option Text) (items : List Node)
  | entries (tag : Option Text) (entries : List (Node × Node))

namespace Node

/-- A scalar that is left out. -/
def missing : Node := scalar none true []

/-- The tag that makes a text of a node. -/
def textTag : Text := "tag:yaml.org,2002:str".toList

/-- The sign of a default value. -/
def defaultSign : Wide := .ofText ['=']

/-- The sign of entries that are taken from other tables. -/
def mergeSign : Wide := .ofText ['<', '<']

/-- Whether the node is the sign of a default value. -/
def isDefault : Node → Bool
  | scalar none true t => t == defaultSign
  | _ => false

/-- Whether the node is the key of entries that are taken from other tables. -/
def isMerge : Node → Bool
  | scalar none true t => t == mergeSign
  | _ => false

/-! ## Tables -/

/-- The entries of a table. -/
def entries? : Node → Option (List (Node × Node))
  | entries _ es => some es
  | _ => none

/-- The entries that the value of a merging key stands for: those of a table, or those of the
tables in a list, of which the first one counts most and so comes last. -/
def mergedEntries? : Node → Option (List (Node × Node))
  | items _ ns => (ns.mapM entries?).map (·.reverse.flatten)
  | n => n.entries?

/-- The table with these entries, where merging keys are replaced by the entries they stand for.
These come first, so that entries of the table itself count over them. A table with a merging key
that stands for no entries keeps its keys as they are. -/
def table (tag : Option Text) (es : List (Node × Node)) : Node :=
  match (es.filter (·.1.isMerge)).mapM fun e => mergedEntries? e.2 with
  | some found => entries tag (found.flatten ++ es.filter fun e => !e.1.isMerge)
  | none => entries tag es

/-! ## Values -/

mutual

/-- The text that a node with the tag of texts stands for: that of a scalar, or that of the
default value of a table. -/
def text? : Node → Option Wide
  | scalar _ _ t => some t
  | items _ _ => none
  | entries _ es => defaultText? es

/-- The text of the first default value among entries. -/
def defaultText? : List (Node × Node) → Option Wide
  | [] => none
  | (k, v) :: rest => if k.isDefault then text? v else defaultText? rest

end

mutual

/-- The value of a node that has no fault. -/
def value : Node → Value
  | scalar none true t => (t.text?.map plainValue).getD (.text t)
  | scalar _ _ t => .text t
  | items _ ns => .list (values ns)
  | entries none es => .table (entryValues es [])
  | entries (some _) es => .text ((defaultText? es).getD [])

/-- The values of nodes. -/
def values : List Node → List Value
  | [] => []
  | n :: rest => value n :: values rest

/-- The entries of a table behind those already read. -/
def entryValues : List (Node × Node) → List (Value × Value) → List (Value × Value)
  | [], done => done
  | (k, v) :: rest, done =>
      let key := if k.isDefault then .text defaultSign else value k
      entryValues rest (Value.put done key (value v))

end

/-! ## Faults -/

/-- The fault of a node itself, whatever stands inside it. -/
def fault? : Node → Option Fault
  | scalar none true t =>
      if t == defaultSign || t == mergeSign then
        some (.malformed (.unknownTag (Wide.readable t)))
      else (t.text?.bind badNumber?).map .badNumber
  | scalar none false _ => none
  | items none _ => none
  | entries none _ => none
  | scalar (some tag) _ _ =>
      if tag == textTag then none else some (.malformed (.unknownTag tag))
  | items (some tag) _ => some (.malformed (.unknownTag tag))
  | entries (some tag) es =>
      if tag == textTag && (defaultText? es).isSome then none
      else some (.malformed (.unknownTag tag))

/-- Whether the value of a node can be the key of an entry. -/
def isKey : Node → Bool
  | scalar _ _ _ => true
  | items _ _ => false
  | entries tag _ => tag.isSome

/-- The nodes that the value of a node is made of, in order. -/
def parts : Node → List Node
  | scalar _ _ _ => []
  | items _ ns => ns
  | entries (some _) _ => []
  | entries none es => es.flatMap fun (k, v) => [k, v]

/-- The first fault of an entry, the one of the key before that of the value. -/
def entryFault? (e : Node × Node) : Option Fault :=
  let key := if e.1.isDefault then none else e.1.fault?
  let shape := if e.1.isKey then none else some (.malformed .badKey)
  key <|> shape <|> e.2.fault?

/-- The first fault of the nodes directly inside a node. -/
def partFault? : Node → Option Fault
  | entries none es =>
      if es.any (·.1.isMerge) then some (.malformed (.unknownTag ['<', '<']))
      else es.findSome? entryFault?
  | n => n.parts.findSome? fault?

/-- The first fault inside nodes, nearest to the root, no more than `depth` levels down. -/
def faultInside? : Nat → List Node → Option Fault
  | 0, _ => none
  | depth + 1, ns =>
      match ns.findSome? partFault?, ns.flatMap parts with
      | some fault, _ => some fault
      | none, [] => none
      | none, inner => faultInside? depth inner

/-- The value of a node that is nested no more than `depth` levels deep. -/
def read (depth : Nat) (n : Node) : Except Fault Value :=
  match n.fault? <|> faultInside? depth [n] with
  | some fault => .error fault
  | none => .ok n.value

end Node

end Runbook.Document
