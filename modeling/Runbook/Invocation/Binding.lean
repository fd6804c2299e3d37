import Runbook.Invocation.Fault
import Runbook.Recipe.Basic

set_option autoImplicit false

/-! # Binding arguments and rendering lines

Binding gives every parameter of a recipe its value: plain parameters one argument each, from
left to right, or their default; a variadic parameter all arguments that are left, or its default
if none is. Rendering puts the bound values in the place of the placeholders. A value put into a
line is not searched for placeholders again.
-/

namespace Runbook

/-- The value of a parameter. -/
inductive Bound where
  /-- One argument. -/
  | one (value : Text)
  /-- The arguments of a variadic parameter. -/
  | many (values : List Text)
  deriving DecidableEq, Repr

namespace Bound

/-- The value as it stands in a line: several arguments are separated by single spaces. -/
def text : Bound → Text
  | one value => value
  | many values => Text.join [' '] values

/-- The value as a list of arguments. -/
def arguments : Bound → List Text
  | one value => [value]
  | many values => values

end Bound

/-- The values of parameters, in the order in which they were first bound. -/
abbrev Bindings := List (Text × Bound)

namespace Bindings

/-- The value bound to a name. -/
def get? (b : Bindings) (name : Text) : Option Bound := (b.find? (·.1 == name)).map (·.2)

/-- The bindings with a name bound: in place if it is bound already, at the end if not. -/
def put : Bindings → Text → Bound → Bindings
  | [], name, value => [(name, value)]
  | (n, v) :: rest, name, value =>
      if n == name then (n, value) :: rest else (n, v) :: put rest name value

/-- The bindings of a list of pairs, in which the last value of a name counts. -/
def ofList (pairs : List (Text × Bound)) : Bindings :=
  pairs.foldl (fun b (name, value) => put b name value) []

@[simp] theorem get?_nil (name : Text) : get? [] name = none := rfl

theorem get?_put (b : Bindings) (name other : Text) (value : Bound) :
    get? (put b name value) other = if other = name then some value else get? b other := by
  induction b with
  | nil =>
      by_cases h : other = name
      · simp [get?, put, h]
      · have h' : ¬ name = other := fun e => h e.symm
        simp [get?, put, h, h']
  | cons p b ih =>
      obtain ⟨n, v⟩ := p
      simp only [get?] at ih ⊢
      by_cases hn : n = name
      · subst hn
        by_cases h : other = n
        · simp [put, h]
        · have h' : ¬ n = other := fun e => h e.symm
          simp [put, h, h']
      · by_cases h : n = other
        · subst h
          simp [put, hn]
        · simp [put, hn, h, ih]

end Bindings

namespace Recipe

/-! ## Binding -/

/-- Binds plain parameters from left to right, `got` being the number of all arguments. The
arguments that are left are given back. -/
def bindPlain (r : Recipe) (got : Nat) :
    List Parameter → List Text → Bindings → Except RunFault (Bindings × List Text)
  | [], rest, b => .ok (b, rest)
  | p :: ps, argument :: rest, b => bindPlain r got ps rest (b.put p.name (.one argument))
  | p :: ps, [], b =>
      match p.default with
      | some d => bindPlain r got ps [] (b.put p.name (.one d))
      | none => .error (.missingArgument r.name p.name r.minArguments got)

/-- The value of a variadic parameter for the arguments that are left. -/
def variadicValue (p : Parameter) (rest : List Text) : Bound :=
  if rest.isEmpty then
    match p.default with
    | some d => .many (if d.isEmpty then [] else [d])
    | none => .many []
  else .many rest

/-- Binds arguments to the parameters of a recipe. -/
def bind (r : Recipe) (arguments : List Text) : Except RunFault Bindings := do
  let (b, rest) ← r.bindPlain arguments.length r.positional arguments []
  match r.variadic? with
  | some p => .ok (b.put p.name (variadicValue p rest))
  | none =>
      if rest.isEmpty then .ok b
      else .error (.extraArguments r.name rest r.parameters.length)

/-- The arguments that a line's shell is given: the bound values in the order of the parameters.
A parameter that is not bound is named. -/
def positionalValues (r : Recipe) (b : Bindings) : Except Text (List Text) :=
  go r.parameters
where
  /-- The values of some of the parameters. -/
  go : List Parameter → Except Text (List Text)
    | [] => .ok []
    | p :: ps =>
        match b.get? p.name with
        | some v => (v.arguments ++ ·) <$> go ps
        | none => .error p.name

/-! ## Rendering -/

/-- The text of pieces with the bound values in the place of placeholders. -/
def renderPieces (r : Recipe) (b : Bindings) : List Piece → Except RunFault Text
  | [] => .ok []
  | .literal c :: rest => (c :: ·) <$> renderPieces r b rest
  | .hole _ name :: rest =>
      match b.get? name with
      | some v => (v.text ++ ·) <$> renderPieces r b rest
      | none => .error (.unresolved r.name name)

/-- A line of the body, rendered. -/
def renderLine (r : Recipe) (b : Bindings) (template : Text) : Except RunFault Text :=
  r.renderPieces b (pieces template)

/-- The lines of the body, rendered in order. -/
def render (r : Recipe) (b : Bindings) : Except RunFault (List Text) :=
  r.body.mapM (r.renderLine b)

end Recipe

end Runbook
