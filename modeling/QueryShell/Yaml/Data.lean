import QueryShell.Yaml.Scalar

namespace QueryShell.Yaml

inductive Data where
  | scalar (scalar : Scalar)
  | collection (index : Nat)
  deriving Inhabited, Repr

inductive Contents where
  | scalar (scalar : Scalar)
  | list (items : List Data)
  | pairs (items : List (Data × Data))
  | dict (entries : List (Scalar × Data))
  | set (elements : List Scalar)
  deriving Inhabited, Repr

structure Document where
  root : Data
  collections : List Contents
  deriving Inhabited, Repr

def putUnder (entries : List (Scalar × α)) (key : Scalar) (value : α) : List (Scalar × α) :=
  match entries with
  | [] => [(key, value)]
  | (k, v) :: rest =>
      if k.equal key then (k, value) :: rest else (k, v) :: putUnder rest key value

def under? (entries : List (Scalar × α)) (key : Scalar) : Option α :=
  (entries.find? fun e => e.1.equal key).map (·.2)

namespace Contents

def isGiven : Contents → Bool
  | .scalar s => s.isGiven
  | .list items => !items.isEmpty
  | .pairs items => !items.isEmpty
  | .dict entries => !entries.isEmpty
  | .set elements => !elements.isEmpty

def kind : Contents → String
  | .scalar s => s.kind
  | .list _ | .pairs _ => "list"
  | .dict _ => "dict"
  | .set _ => "set"

end Contents

namespace Document

def contents (d : Document) : Data → Contents
  | .scalar s => .scalar s
  | .collection index => d.collections.getD index (.list [])

def depthLimit : Nat := 1000

def endlessComparison : Fault :=
  .other "RecursionError" "maximum recursion depth exceeded in comparison"

def isSame : Data → Data → Bool
  | .collection i, .collection j => i == j
  | _, _ => false

def equalItems (equal : α → α → Except Fault Bool) (xs ys : List α) : Except Fault Bool :=
  if xs.length == ys.length then (xs.zip ys).allM fun p => equal p.1 p.2 else .ok false

def equalEntries (equal : α → α → Except Fault Bool) (xs ys : List (Scalar × α)) :
    Except Fault Bool :=
  if xs.length == ys.length then
    xs.allM fun e =>
      match under? ys e.1 with
      | some value => equal e.2 value
      | none => .ok false
  else .ok false

def equalUpTo (d : Document) : (depth : Nat) → Data → Data → Except Fault Bool
  | 0, _, _ => .error endlessComparison
  | depth + 1, x, y =>
      if isSame x y then .ok true
      else
        match d.contents x, d.contents y with
        | .scalar s, .scalar t => .ok (s.equal t)
        | .list xs, .list ys => equalItems (d.equalUpTo depth) xs ys
        | .pairs xs, .pairs ys =>
            equalItems (fun p q => do
              if ← d.equalUpTo depth p.1 q.1 then d.equalUpTo depth p.2 q.2 else return false) xs ys
        | .list xs, .pairs ys => .ok (xs.isEmpty && ys.isEmpty)
        | .pairs xs, .list ys => .ok (xs.isEmpty && ys.isEmpty)
        | .dict xs, .dict ys => equalEntries (d.equalUpTo depth) xs ys
        | .set xs, .set ys =>
            .ok (xs.length == ys.length && xs.all fun x => ys.any fun y => x.equal y)
        | _, _ => .ok false

def equal (d : Document) (x y : Data) : Except Fault Bool :=
  d.equalUpTo depthLimit x y

end Document

end QueryShell.Yaml
