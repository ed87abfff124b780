import QueryShell.Decimal.Reading
import QueryShell.Statement.Form
import QueryShell.Statement.Quotation
import QueryShell.Value.Basic

namespace QueryShell.Statement

inductive Node where
  | literal (value : Value)
  | identifier (name : String)
  | call (name : String) (args : List Node)
  | array (items : List Node)
  | object (pairs : List (Str × Node))
  /-- A value where a node is expected. It cannot be evaluated. -/
  | stray (value : Value)

instance : Inhabited Node := ⟨.stray .null⟩

inductive LiteralFault where
  | string (token : List Char) (fault : QuotationFault)
  | integer (digits : Nat)
  deriving DecidableEq, Repr

variable [CharacterNames]

def stringValue (token : List Char) : Except LiteralFault Str :=
  match unquote token with
  | .ok s => .ok s
  | .error fault => .error (.string token fault)

def numberValue (token : List Char) : Except LiteralFault Value :=
  if token.any fun c => c == '.' || c == 'e' || c == 'E' then
    match Decimal.Written.ofChars? token with
    | some written => .ok (.float written.toFloat)
    | none => .ok .null
  else
    match Decimal.integerOf token with
    | .ok n => .ok (.int n)
    | .error digits => .error (.integer digits)

def nameNode (text : List Char) : Node :=
  match String.ofList text with
  | "true" => .literal (.bool true)
  | "false" => .literal (.bool false)
  | "null" => .literal .null
  | name => .identifier name

def keyText : Key → Except LiteralFault Str
  | .name text => .ok (.ofChars text)
  | .string token => stringValue token

mutual

/-- Reads the literals of a form, left to right; a key is read after its value. -/
def Form.toNode : Form → Except LiteralFault Node
  | .name text => .ok (nameNode text)
  | .string token => return .literal (.str (← stringValue token))
  | .number token => return .literal (← numberValue token)
  | .call name args => return .call (String.ofList name) (← formsToNodes args)
  | .array items => return .array (← formsToNodes items)
  | .object pairs => return .object (← pairsToNodes pairs)
termination_by structural f => f

def formsToNodes : List Form → Except LiteralFault (List Node)
  | [] => .ok []
  | f :: fs => return (← f.toNode) :: (← formsToNodes fs)
termination_by structural fs => fs

def pairsToNodes : List (Key × Form) → Except LiteralFault (List (Str × Node))
  | [] => .ok []
  | (key, form) :: pairs => do
      let node ← form.toNode
      let name ← keyText key
      return (name, node) :: (← pairsToNodes pairs)
termination_by structural pairs => pairs

end

end QueryShell.Statement
