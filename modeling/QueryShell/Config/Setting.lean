import QueryShell.Value.Basic
import QueryShell.Yaml.Data

namespace QueryShell.Config

inductive Setting where
  | null
  | bool (b : Bool)
  | int (n : Int)
  | float (x : Float)
  | text (s : String)
  /-- Text that holds half of a surrogate pair. -/
  | brokenText
  | bytes (data : List UInt8)
  | other (given : Bool)
  deriving Repr

namespace Setting

def isGiven : Setting → Bool
  | .null => false
  | .bool b => b
  | .int n => n != 0
  | .float x => x != 0.0
  | .text s => s != ""
  | .brokenText => true
  | .bytes data => !data.isEmpty
  | .other given => given

def ofStr (s : Str) : Setting :=
  match s.text? with
  | some found => .text found
  | none => .brokenText

def ofValue : Value → Setting
  | .null => .null
  | .bool b => .bool b
  | .int n => .int n
  | .float x => .float x
  | .str s => ofStr s
  | .bytes data => .bytes data
  | value => .other value.truthy

def ofScalar : Yaml.Scalar → Setting
  | .null => .null
  | .bool b => .bool b
  | .int n => .int n
  | .float x => .float x
  | .nan => .float (0.0 / 0.0)
  | .text s => ofStr s
  | .bytes data => .bytes data
  | .date _ | .time _ => .other true

def ofContents : Yaml.Contents → Setting
  | .scalar s => ofScalar s
  | contents => .other contents.isGiven

end Setting

abbrev Settings := List (String × Setting)

end QueryShell.Config
