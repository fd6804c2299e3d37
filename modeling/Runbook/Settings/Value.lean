import Runbook.Double.Shortest
import Runbook.Text.CodePoint

set_option autoImplicit false

/-! # Setting values

The values a settings document, the environment or the command line may give to a setting:
nothing, truth values, numbers, texts, and lists and tables of values. A table keeps its entries
in the order in which its keys first appear. A document may hold values of other types, such as
dates; no setting is of such a type, so that it is enough to know how they are shown and what they
are as plain text.
-/

namespace Runbook

/-- The value of a setting before it is checked. -/
inductive Value where
  | null
  | bool (b : Bool)
  | int (n : Int)
  | real (x : Double)
  | text (t : Wide)
  | list (items : List Value)
  | table (entries : List (Value × Value))
  /-- A value of another type. -/
  | other (shown plain : Text)
  deriving Inhabited

namespace Value

/-! ## Shown form -/

mutual

/-- The value as a message shows it: texts quoted, lists in brackets, tables in braces. -/
def shown : Value → Text
  | null => ['N', 'o', 'n', 'e']
  | bool true => ['T', 'r', 'u', 'e']
  | bool false => ['F', 'a', 'l', 's', 'e']
  | int n => Text.ofInt n
  | real x => x.text
  | text t => t.quoted
  | list items => '[' :: shownItems items ++ [']']
  | table entries => '{' :: shownEntries entries ++ ['}']
  | other shown _ => shown

/-- Items separated by commas. -/
def shownItems : List Value → Text
  | [] => []
  | [v] => shown v
  | v :: w :: rest => shown v ++ [',', ' '] ++ shownItems (w :: rest)

/-- Entries separated by commas, each key followed by a colon. -/
def shownEntries : List (Value × Value) → Text
  | [] => []
  | [(k, v)] => shown k ++ [':', ' '] ++ shown v
  | (k, v) :: e :: rest =>
      shown k ++ [':', ' '] ++ shown v ++ [',', ' '] ++ shownEntries (e :: rest)

end

mutual

/-- Whether the value can be shown: no integer in it is too long to be written. -/
def isShowable : Value → Bool
  | int n => Text.isWritable n
  | list items => areShowable items
  | table entries => entriesShowable entries
  | _ => true

/-- Whether all items can be shown. -/
def areShowable : List Value → Bool
  | [] => true
  | v :: rest => isShowable v && areShowable rest

/-- Whether all keys and values can be shown. -/
def entriesShowable : List (Value × Value) → Bool
  | [] => true
  | (k, v) :: rest => isShowable k && isShowable v && entriesShowable rest

end

/-- The value as plain text: a text is itself, and a value of another type has its own; any other
value is its shown form. -/
def plain : Value → Wide
  | text t => t
  | other _ plain => .ofText plain
  | v => .ofText v.shown

/-- The value that a text without halves is. -/
def ofText (t : Text) : Value := text (.ofText t)

/-! ## Keys -/

/-- The integer that a number or a truth value counts as, if it is one. -/
def asInt? : Value → Option Int
  | int n => some n
  | bool b => some (if b then 1 else 0)
  | _ => none

/-- Whether two keys are the same key of a table. Numbers and truth values are compared as
numbers, so `1`, `1.0` and `true` are one key. Values of other types are told apart by how they are
shown. -/
def sameKey : Value → Value → Bool
  | null, null => true
  | text a, text b => a == b
  | other a b, other c d => a == c && b == d
  | real x, real y => x.same y
  | real x, v =>
      match v.asInt? with
      | some n => x.equalsInt n
      | none => false
  | u, real y =>
      match u.asInt? with
      | some n => y.equalsInt n
      | none => false
  | u, v =>
      match u.asInt?, v.asInt? with
      | some m, some n => m == n
      | _, _ => false

/-- The entries with the value of `k` set: in place if the key is there, at the end if not. -/
def put (entries : List (Value × Value)) (k v : Value) : List (Value × Value) :=
  match entries with
  | [] => [(k, v)]
  | (k', v') :: rest => if sameKey k' k then (k', v) :: rest else (k', v') :: put rest k v

/-- The value of a text key. -/
def find? (entries : List (Value × Value)) (key : Text) : Option Value :=
  match entries with
  | [] => none
  | (text k, v) :: rest => if k.text? == some key then some v else find? rest key
  | (_, _) :: rest => find? rest key

end Value

end Runbook
