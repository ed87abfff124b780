import QueryShell.Yaml.Data

namespace QueryShell.Yaml

def integerShown (n : Int) : Except Fault String :=
  if n.natAbs < Decimal.tenTo Decimal.digitLimit then .ok (Decimal.integer n)
  else .error .integerTooLong

namespace Scalar

def shown : Scalar → Except Fault String
  | .null => .ok "None"
  | .bool b => .ok (if b then "True" else "False")
  | .int n => integerShown n
  | .float x => .ok (Decimal.float x)
  | .nan => .ok "nan"
  | .text s => .ok (Text.quoted s)
  | .bytes data => .ok (Text.quotedBytes data)
  | .date d => .ok d.shown
  | .time t => .ok t.shown

def stated : Scalar → Except Fault Str
  | .text s => .ok s
  | .date d => .ok d.text
  | .time t => .ok t.text
  | other => other.shown.map Str.of

end Scalar

def enclosed (opening closing : String) (parts : List String) : String :=
  opening ++ ", ".intercalate parts ++ closing

namespace Document

def isWithin (opened : List Nat) : Data → Bool
  | .collection index => opened.contains index
  | .scalar _ => false

def opening (opened : List Nat) : Data → List Nat
  | .collection index => index :: opened
  | .scalar _ => opened

/-- The text of a value within collections that are being shown. As each of them is opened once, no
more of them are open than there are. -/
def shownWithin (d : Document) : (depth : Nat) → (opened : List Nat) → Data → Except Fault String
  | 0, _, _ => .ok ""
  | depth + 1, opened, data =>
      let part := d.shownWithin depth (opening opened data)
      let within := isWithin opened data
      match d.contents data with
      | .scalar s => s.shown
      | .list items =>
          if within then .ok "[...]" else return enclosed "[" "]" (← items.mapM part)
      | .pairs items =>
          if within then .ok "[...]"
          else return enclosed "[" "]" (← items.mapM fun p =>
            return enclosed "(" ")" [← part p.1, ← part p.2])
      | .dict entries =>
          if within then .ok "\x7b...\x7d"
          else return enclosed "\x7b" "\x7d" (← entries.mapM fun e =>
            return (← e.1.shown) ++ ": " ++ (← part e.2))
      | .set elements =>
          if elements.isEmpty then .ok "set()"
          else return enclosed "\x7b" "\x7d" (← elements.mapM (·.shown))

def shown (d : Document) (data : Data) : Except Fault String :=
  d.shownWithin (d.collections.length + 2) [] data

def stated (d : Document) (data : Data) : Except Fault Str :=
  match data with
  | .scalar s => s.stated
  | .collection _ => (d.shown data).map Str.of

end Document

end QueryShell.Yaml
