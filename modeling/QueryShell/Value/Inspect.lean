import QueryShell.Decimal.Notation
import QueryShell.Fault
import QueryShell.Text.Blank
import QueryShell.Text.Casing
import QueryShell.Text.Quoted
import QueryShell.Value.Basic

namespace QueryShell.Value

def schemaHelpers : List (String × String) :=
  [("collections", "Collection"),
    ("databases", "Database"),
    ("indexes", "Index"),
    ("functions", "Function"),
    ("roles", "Role"),
    ("keys", "Key"),
    ("tokens", "Token"),
    ("credentials", "Credential"),
    ("access_providers", "AccessProvider")]

/-- The words of an identifier, each with a capital letter at its start, without their breaks. -/
def collectionHelper (id : Str) : Str :=
  id.mapRuns fun run => (Text.splitAt '_' run).flatMap Text.title

def isSeparator (p : CodePoint) : Bool :=
  p == .char ',' || p == .char ' '

def commaSeparated (texts : List Str) : Str :=
  List.intercalate ", " texts

def entryText (key value : Str) : Str :=
  key ++ ": " ++ value

def textOr (v : Value) (shown : Except Fault Str) : Except Fault Str :=
  match v with
  | .str s => .ok s
  | _ => shown

def refText (id collection : Value) (inDatabase : Bool)
    (database parent own : Except Fault Str) (schema : Except Fault (Option String)) :
    Except Fault Str := do
  let scope : Str ← if inDatabase then (fun text => ", " ++ text) <$> database else pure []
  match collection with
  | .null =>
      match id with
      | .str name =>
          return collectionHelper name ++ "(" ++ scope.dropWhile isSeparator ++ ")"
      | .bytes _ => throw (.bytesExpected "str")
      | other => throw (.noAttribute other.typeName "split")
  | .ref .. =>
      match ← schema with
      | some name => return name ++ "(\"" ++ (← textOr id own) ++ "\"" ++ scope ++ ")"
      | none => return "Ref(" ++ (← parent) ++ ", \"" ++ (← textOr id own) ++ "\"" ++ scope ++ ")"
  | other => throw (.noAttribute other.typeName "collection")

mutual

def inspect : Value → Except Fault Str
  | .null => .ok "None"
  | .bool b => .ok (if b then "True" else "False")
  | .int n => .ok (Decimal.integer n)
  | .float x => .ok (Decimal.float x)
  | .str s => .ok (Text.quoted s)
  | .list items => return "[" ++ commaSeparated (← inspectAll items) ++ "]"
  | .tuple items => do
      match ← inspectAll items with
      | [text] => return "(" ++ text ++ ",)"
      | texts => return "(" ++ commaSeparated texts ++ ")"
  | .dict pairs => return "\x7b" ++ commaSeparated (← inspectPairs pairs) ++ "\x7d"
  | .bytes data => .ok (Text.quotedBytes data)
  | .expr pairs => return "Expr(\x7b" ++ commaSeparated (← inspectPairs pairs) ++ "\x7d)"
  | .ref id collection database =>
      refText id collection database.truthy (inspect database) (inspect collection) (inspect id)
        (schema? collection)
  | .time value => return "Time(\"" ++ (← textOr value (inspect value)) ++ "\")"
  | .date value => return "Date(\"" ++ (← textOr value (inspect value)) ++ "\")"
  | .set value => return "SetRef(" ++ (← inspect value) ++ ")"
  | .query value => return "Query(" ++ (← inspect value) ++ ")"
  | .helper h => .ok ("<function " ++ h.function ++ ">")
termination_by structural v => v

def inspectAll : List Value → Except Fault (List Str)
  | [] => .ok []
  | v :: vs => return (← inspect v) :: (← inspectAll vs)
termination_by structural vs => vs

def inspectPairs : List (Value × Value) → Except Fault (List Str)
  | [] => .ok []
  | (k, v) :: ps => return entryText (← inspect k) (← inspect v) :: (← inspectPairs ps)
termination_by structural ps => ps

def schema? : Value → Except Fault (Option String)
  | .ref id .null _ => do
      checkHashable id
      match id with
      | .str name => return name.text?.bind fun name => schemaHelpers.lookup name
      | _ => return none
  | _ => return none
termination_by structural v => v

def checkHashable : Value → Except Fault Unit
  | .list _ => throw (.unhashable "list")
  | .dict _ => throw (.unhashable "dict")
  | .tuple items => checkAllHashable items
  | .expr pairs => discard (inspectPairs pairs)
  | .ref id collection database => do
      checkHashable id
      checkHashable collection
      checkHashable database
  | .time value | .date value | .set value | .query value => checkHashable value
  | _ => .ok ()
termination_by structural v => v

def checkAllHashable : List Value → Except Fault Unit
  | [] => .ok ()
  | v :: vs => do
      checkHashable v
      checkAllHashable vs
termination_by structural vs => vs

end

def text (v : Value) : Except Fault Str :=
  textOr v v.inspect

mutual

def mentionsHelper : Value → Bool
  | .helper _ => true
  | .list items | .tuple items => anyMentionsHelper items
  | .dict pairs | .expr pairs => anyPairMentionsHelper pairs
  | .ref id collection database =>
      mentionsHelper id || mentionsHelper collection || mentionsHelper database
  | .time value | .date value | .set value | .query value => mentionsHelper value
  | _ => false
termination_by structural v => v

def anyMentionsHelper : List Value → Bool
  | [] => false
  | v :: vs => mentionsHelper v || anyMentionsHelper vs
termination_by structural vs => vs

def anyPairMentionsHelper : List (Value × Value) → Bool
  | [] => false
  | (k, v) :: ps => mentionsHelper k || mentionsHelper v || anyPairMentionsHelper ps
termination_by structural ps => ps

end

end QueryShell.Value
