import QueryShell.Value.Inspect

namespace QueryShell.Render

inductive Shape where
  | list
  | tuple
  | dict
  deriving DecidableEq, Repr

inductive View where
  | leaf (text : Except Fault Str)
  | group (shape : Shape) (parts : List (Option (Except Fault Str) × View))

mutual

def View.plain : Value → View
  | .list items => .group .list (plainAll items)
  | .tuple items => .group .tuple (plainAll items)
  | .dict pairs => .group .dict (plainPairs pairs)
  | other => .leaf other.inspect
termination_by structural v => v

def plainAll : List Value → List (Option (Except Fault Str) × View)
  | [] => []
  | v :: vs => (none, View.plain v) :: plainAll vs
termination_by structural vs => vs

def plainPairs : List (Value × Value) → List (Option (Except Fault Str) × View)
  | [] => []
  | (k, v) :: ps => (some k.inspect, View.plain v) :: plainPairs ps
termination_by structural ps => ps

end

mutual

/-- The view of a result. Tuples and the insides of all other values are left as they are. -/
def View.ofValue : Value → View
  | .null => .leaf (.ok "null")
  | .bool b => .leaf (.ok (if b then "true" else "false"))
  | .list items => .group .list (viewAll items)
  | .dict pairs => .group .dict (viewPairs pairs)
  | .tuple items => .group .tuple (plainAll items)
  | other => .leaf other.inspect
termination_by structural v => v

def viewAll : List Value → List (Option (Except Fault Str) × View)
  | [] => []
  | v :: vs => (none, View.ofValue v) :: viewAll vs
termination_by structural vs => vs

def viewPairs : List (Value × Value) → List (Option (Except Fault Str) × View)
  | [] => []
  | (k, v) :: ps => (some k.inspect, View.ofValue v) :: viewPairs ps
termination_by structural ps => ps

end

def Shape.opening : Shape → String
  | .list => "["
  | .tuple => "("
  | .dict => "\x7b"

def Shape.closing : Shape → String
  | .list => "]"
  | .tuple => ")"
  | .dict => "\x7d"

/-- A tuple of one part keeps a comma. -/
def Shape.wrap (shape : Shape) (texts : List Str) : Str :=
  let inner :=
    match shape, texts with
    | .tuple, [text] => text ++ ","
    | _, texts => Value.commaSeparated texts
  shape.opening ++ inner ++ shape.closing

mutual

def View.line : View → Except Fault Str
  | .leaf text => text
  | .group shape parts => return shape.wrap (← partLines parts)
termination_by structural view => view

def partLines : List (Option (Except Fault Str) × View) → Except Fault (List Str)
  | [] => .ok []
  | (none, view) :: parts => return (← view.line) :: (← partLines parts)
  | (some key, view) :: parts =>
      return (Value.entryText (← key) (← view.line)) :: (← partLines parts)
termination_by structural parts => parts

end

end QueryShell.Render
