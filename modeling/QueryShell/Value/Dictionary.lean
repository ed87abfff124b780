import QueryShell.Value.Equality

namespace QueryShell.Value

def put (pairs : List (Value × Value)) (key value : Value) : List (Value × Value) :=
  match pairs with
  | [] => [(key, value)]
  | (k, v) :: rest => if sameKey k key then (k, value) :: rest else (k, v) :: put rest key value

def putAll (pairs entries : List (Value × Value)) : List (Value × Value) :=
  entries.foldl (fun acc e => put acc e.1 e.2) pairs

def ofPairs (entries : List (Value × Value)) : List (Value × Value) :=
  putAll [] entries

def field? (pairs : List (Value × Value)) (name : String) : Option Value :=
  (pairs.find? fun p =>
    match p.1 with
    | .str s => s == name
    | _ => false).map (·.2)

def putText [DecidableEq κ] (pairs : List (κ × α)) (key : κ) (value : α) : List (κ × α) :=
  match pairs with
  | [] => [(key, value)]
  | (k, v) :: rest => if k = key then (k, value) :: rest else (k, v) :: putText rest key value

def ofTextPairs (entries : List (Str × Value)) : Value :=
  .dict ((entries.foldl (fun acc e => putText acc e.1 e.2) []).map fun p => (.str p.1, p.2))

end QueryShell.Value
