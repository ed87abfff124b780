import QueryShell.CodePoint
import QueryShell.Query.Helper

namespace QueryShell

inductive Value where
  | null
  | bool (b : Bool)
  | int (n : Int)
  | float (x : Float)
  | str (s : Str)
  | list (items : List Value)
  | tuple (items : List Value)
  | dict (pairs : List (Value × Value))
  | bytes (data : List UInt8)
  | expr (pairs : List (Value × Value))
  | ref (id collection database : Value)
  | time (value : Value)
  | date (value : Value)
  | set (value : Value)
  | query (value : Value)
  | helper (helper : Query.Helper)

namespace Value

instance : Inhabited Value := ⟨.null⟩

def typeName : Value → String
  | .null => "NoneType"
  | .bool _ => "bool"
  | .int _ => "int"
  | .float _ => "float"
  | .str _ => "str"
  | .list _ => "list"
  | .tuple _ => "tuple"
  | .dict _ => "dict"
  | .bytes _ => "bytes"
  | .expr _ => "Expr"
  | .ref .. => "Ref"
  | .time _ => "FaunaTime"
  | .date _ => "FaunaDate"
  | .set _ => "SetRef"
  | .query _ => "QueryValue"
  | .helper _ => "function"

def truthy : Value → Bool
  | .null => false
  | .bool b => b
  | .int n => n != 0
  | .float x => x != 0.0
  | .str s => !s.isEmpty
  | .list items | .tuple items => !items.isEmpty
  | .dict pairs => !pairs.isEmpty
  | .bytes data => !data.isEmpty
  | _ => true

def isNull : Value → Bool
  | .null => true
  | _ => false

def ofOption : Option Value → Value :=
  (·.getD .null)

def ofStrings (names : List String) : Value :=
  .list (names.map fun (name : String) => .str name)

end Value

end QueryShell
