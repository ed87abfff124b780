import QueryShell.CodePoint
import QueryShell.Text.Printable

namespace QueryShell.Text

def quoteFor (single double : Bool) : Char :=
  if single && !double then '"' else '\''

def namedEscape? (quote c : Char) : Option (List Char) :=
  if c = quote || c = '\\' then some ['\\', c]
  else if c = '\t' then some ['\\', 't']
  else if c = '\n' then some ['\\', 'n']
  else if c = '\r' then some ['\\', 'r']
  else none

def numberedEscape (n : Nat) : List Char :=
  if n ≤ 0xff then '\\' :: 'x' :: hexDigits 2 n
  else if n ≤ 0xffff then '\\' :: 'u' :: hexDigits 4 n
  else '\\' :: 'U' :: hexDigits 8 n

def escapeChar (quote c : Char) : List Char :=
  (namedEscape? quote c).getD (if isPrintable c then [c] else numberedEscape c.toNat)

def escapePoint (quote : Char) : CodePoint → List Char
  | .char c => escapeChar quote c
  | .surrogate index => numberedEscape (CodePoint.surrogate index).toNat

def quoteChars (s : Str) : List Char :=
  let quote := quoteFor (s.contains (.char '\'')) (s.contains (.char '"'))
  quote :: (s.flatMap (escapePoint quote) ++ [quote])

def quoted (s : Str) : String :=
  String.ofList (quoteChars s)

def escapeByte (quote : Char) (b : UInt8) : List Char :=
  let c := Char.ofNat b.toNat
  (namedEscape? quote c).getD
    (if 0x20 ≤ b.toNat && b.toNat < 0x7f then [c] else numberedEscape b.toNat)

def quotedBytes (bytes : List UInt8) : String :=
  let quote := quoteFor (bytes.contains 0x27) (bytes.contains 0x22)
  String.ofList ('b' :: quote :: (bytes.flatMap (escapeByte quote) ++ [quote]))

end QueryShell.Text
