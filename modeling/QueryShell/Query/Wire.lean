import QueryShell.Text.Base64
import QueryShell.Value.Dictionary

namespace QueryShell.Query

def objectKey : String := "object"

def bytesKey : String := "@bytes"

mutual

def toWire : Value → Except Fault Value
  | .expr pairs => return .dict (← fieldsToWire pairs)
  | .dict pairs => do
      let entries ← entriesToWire pairs
      return .dict [(.str objectKey, Value.ofTextPairs entries)]
  | .list items | .tuple items => return .list (← allToWire items)
  | .bytes data =>
      .ok (.dict [(.str bytesKey, .str (.ofChars (Text.Base64.encode data)))])
  | .null => .ok .null
  | .bool b => .ok (.bool b)
  | .int n => .ok (.int n)
  | .float x => .ok (.float x)
  | .str s => .ok (.str s)
  | other => .error (.notEncodable other.typeName)
termination_by structural v => v

def allToWire : List Value → Except Fault (List Value)
  | [] => .ok []
  | v :: vs => return (← toWire v) :: (← allToWire vs)
termination_by structural vs => vs

def fieldsToWire : List (Value × Value) → Except Fault (List (Value × Value))
  | [] => .ok []
  | (k, v) :: ps => return (k, ← toWire v) :: (← fieldsToWire ps)
termination_by structural ps => ps

def entriesToWire : List (Value × Value) → Except Fault (List (Str × Value))
  | [] => .ok []
  | (k, v) :: ps => return (← k.text, ← toWire v) :: (← entriesToWire ps)
termination_by structural ps => ps

end

end QueryShell.Query
