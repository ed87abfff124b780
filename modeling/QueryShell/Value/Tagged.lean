import QueryShell.Text.Base64
import QueryShell.Value.Dictionary

namespace QueryShell.Value

def bytesOfTagged : Value → Except Fault Value
  | .str s =>
      match s.chars? with
      | some cs =>
          if cs.all fun c => c.toNat < 0x80 then
            match Text.Base64.decode cs with
            | .ok data => .ok (.bytes data)
            | .error reason => .error (.base64 reason)
          else .error .notAscii
      | none => .error .notAscii
  | other => .error (.notBase64Source other.typeName)

/-- A reference whose tag holds no object is its own identifier. -/
def bareRef (inner : Value) : Except Fault Value :=
  return .ref (.str (← inner.text)) .null .null

def identifier (pairs : List (Value × Value)) : Except Fault Value :=
  match field? pairs "id" with
  | some id => .ok id
  | none => .error (.missingKey "'id'")

mutual

def decode : Value → Except Fault Value
  | .list items => return .list (← decodeAll items)
  | .dict [(.str tag, inner)] =>
      match tag.text? with
      | some "@ref" => decodeRef inner
      | some "@obj" => decodeObject inner
      | some "@ts" => .ok (.time inner)
      | some "@date" => .ok (.date inner)
      | some "@set" => return .set (← decode inner)
      | some "@bytes" => bytesOfTagged inner
      | some "@query" => return .query (← decode inner)
      | _ => return .dict [(.str tag, ← decode inner)]
  | .dict pairs => return .dict (← decodePairs pairs)
  | other => .ok other
termination_by structural v => v

def decodeAll : List Value → Except Fault (List Value)
  | [] => .ok []
  | v :: vs => return (← decode v) :: (← decodeAll vs)
termination_by structural vs => vs

def decodePairs : List (Value × Value) → Except Fault (List (Value × Value))
  | [] => .ok []
  | (k, v) :: ps => return (k, ← decode v) :: (← decodePairs ps)
termination_by structural ps => ps

/-- The inside of an `@obj`: a plain dictionary, whatever its keys. -/
def decodeObject : Value → Except Fault Value
  | .dict pairs => return .dict (← decodePairs pairs)
  | other => .error (.noAttribute other.typeName "items")
termination_by structural v => v

def decodeRef : Value → Except Fault Value
  | .dict pairs => do
      let collection ← decodeField "collection" pairs
      let database ← decodeField "database" pairs
      return .ref (← identifier pairs) collection database
  | other => bareRef other
termination_by structural v => v

def decodeField (name : String) : List (Value × Value) → Except Fault Value
  | [] => .ok .null
  | (.str key, v) :: ps => if key = Str.of name then decode v else decodeField name ps
  | _ :: ps => decodeField name ps
termination_by structural ps => ps

end

end QueryShell.Value
