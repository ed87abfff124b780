import QueryShell.Value.Dictionary

namespace QueryShell.Value

def items? : Value → Option (List Value)
  | .list items | .tuple items => some items
  | .dict pairs => some (pairs.map (·.1))
  | .str s => some (s.map fun p => .str [p])
  | .bytes data => some (data.map fun b => .int b.toNat)
  | _ => none

def putEntry (pairs : List (Value × Value)) (index : Nat) (item : Value) :
    Except Fault (List (Value × Value)) :=
  match item.items? with
  | none => .error (.entryNotSequence index)
  | some [key, value] => do
      key.checkHashable
      return put pairs key value
  | some parts => .error (.entryNotPair index parts.length)

def putEntries (pairs : List (Value × Value)) (index : Nat) :
    List Value → Except Fault (List (Value × Value))
  | [] => .ok pairs
  | item :: items => do putEntries (← putEntry pairs index item) (index + 1) items

def merge (pairs : List (Value × Value)) (added : Value) :
    Except Fault (List (Value × Value)) :=
  if !added.truthy then .ok pairs
  else
    match added with
    | .dict entries => .ok (putAll pairs entries)
    | other =>
        match other.items? with
        | some items => putEntries pairs 0 items
        | none => .error (.notIterable other.typeName)

end QueryShell.Value
