import QueryShell.Value.Dictionary

namespace QueryShell.Json

def escapeChar (c : Char) : List Char :=
  if c = '"' then ['\\', '"']
  else if c = '\\' then ['\\', '\\']
  else if c = '\n' then ['\\', 'n']
  else if c = '\r' then ['\\', 'r']
  else if c = '\t' then ['\\', 't']
  else if c = '\x0c' then ['\\', 'f']
  else if c = '\x08' then ['\\', 'b']
  else if c.toNat < 0x20 then '\\' :: 'u' :: Text.hexDigits 4 c.toNat
  else [c]

def escapePoint : CodePoint → Str
  | .char c => .ofChars (escapeChar c)
  | .surrogate index => [.surrogate index]

def writeString (s : Str) : Str :=
  .char '"' :: (s.flatMap escapePoint ++ [.char '"'])

def writeFloat (x : Float) : Except Fault Str :=
  if Decimal.isFinite x then .ok (.ofChars (Decimal.shellStyle.chars x)) else .error .notFinite

/-- An integer of too many digits has no text. -/
def writeInteger (n : Int) : Except Fault Str :=
  if n.natAbs < Decimal.tenTo Decimal.digitLimit then .ok (.ofChars (Decimal.integerChars n))
  else .error .integerTooLong

def writeBool (b : Bool) : Str :=
  .ofChars (if b then ['t', 'r', 'u', 'e'] else ['f', 'a', 'l', 's', 'e'])

def writeNull : Str :=
  .ofChars ['n', 'u', 'l', 'l']

def writeKey : Value → Except Fault Str
  | .str s => .ok (writeString s)
  | .null => .ok (.char '"' :: (writeNull ++ [.char '"']))
  | .bool b => .ok (.char '"' :: (writeBool b ++ [.char '"']))
  | .int n => return .char '"' :: ((← writeInteger n) ++ [.char '"'])
  | .float x => return .char '"' :: ((← writeFloat x) ++ [.char '"'])
  | other => .error (.keyNotEncodable other.typeName)

mutual

def writeValue : Value → Except Fault Str
  | .null => .ok writeNull
  | .bool b => .ok (writeBool b)
  | .int n => writeInteger n
  | .float x => writeFloat x
  | .str s => .ok (writeString s)
  | .list items | .tuple items => return .char '[' :: ((← writeItems items) ++ [.char ']'])
  | .dict pairs => return .char '{' :: ((← writePairs pairs) ++ [.char '}'])
  | other => .error (.other "TypeError"
      ("Object of type " ++ other.typeName ++ " is not JSON serializable"))
termination_by structural v => v

def writeItems : List Value → Except Fault Str
  | [] => .ok []
  | [v] => writeValue v
  | v :: vs => return (← writeValue v) ++ .char ',' :: (← writeItems vs)
termination_by structural vs => vs

def writePairs : List (Value × Value) → Except Fault Str
  | [] => .ok []
  | [(k, v)] => return (← writeKey k) ++ .char ':' :: (← writeValue v)
  | (k, v) :: ps =>
      return (← writeKey k) ++ .char ':' :: ((← writeValue v) ++ .char ',' :: (← writePairs ps))
termination_by structural ps => ps

end

def write (v : Value) : Except Fault Str :=
  writeValue v

end QueryShell.Json
