import QueryShell.Decimal.Reading
import QueryShell.Value.Dictionary

namespace QueryShell.Json

inductive Problem where
  | byteOrderMark
  | value
  | propertyName
  | colon
  | comma
  | unterminatedString
  | controlCharacter
  | escape
  | unicodeEscape
  | extraData
  deriving DecidableEq, Repr

inductive ReadFault where
  | malformed (problem : Problem) (offset : Nat)
  | tooManyDigits (count : Nat)
  deriving DecidableEq, Repr

def Problem.message : Problem → String
  | .byteOrderMark => "Unexpected UTF-8 BOM (decode using utf-8-sig)"
  | .value => "Expecting value"
  | .propertyName => "Expecting property name enclosed in double quotes"
  | .colon => "Expecting ':' delimiter"
  | .comma => "Expecting ',' delimiter"
  | .unterminatedString => "Unterminated string starting at"
  | .controlCharacter => "Invalid control character at"
  | .escape => "Invalid \\escape"
  | .unicodeEscape => "Invalid \\uXXXX escape"
  | .extraData => "Extra data"

structure Cursor where
  offset : Nat
  rest : Str

def Cursor.advance (at_ : Cursor) (count : Nat) : Cursor :=
  ⟨at_.offset + count, at_.rest.drop count⟩

def fail (problem : Problem) (offset : Nat) : Except ReadFault α :=
  .error (.malformed problem offset)

def isSpace (c : Char) : Bool :=
  c == ' ' || c == '\t' || c == '\n' || c == '\r'

def skipSpace (here : Cursor) : Cursor :=
  here.advance (here.rest.leading.takeWhile isSpace).length

def isDigit (c : Char) : Bool :=
  '0' ≤ c && c ≤ '9'

def namedEscape? : Char → Option Char
  | '"' => some '"'
  | '\\' => some '\\'
  | '/' => some '/'
  | 'b' => some '\x08'
  | 'f' => some '\x0c'
  | 'n' => some '\n'
  | 'r' => some '\r'
  | 't' => some '\t'
  | _ => none

def fourHex? (s : Str) : Option Nat :=
  let digits := (s.take 4).filterMap fun p => p.char?.bind Text.hexValue?
  if digits.length == 4 then some (Text.spelled 16 digits) else none

/-- A code point by number, after its backslash and `u`. The digits must not end the text. -/
def unicodeEscape (here : Cursor) : Except ReadFault (CodePoint × Cursor) :=
  match fourHex? here.rest, here.rest.drop 4 with
  | some code, .char '\\' :: .char 'u' :: second =>
      if isHighSurrogate code && 4 < second.length then
        match fourHex? second with
        | none => fail .unicodeEscape (here.offset + 5)
        | some low =>
            if isLowSurrogate low then
              .ok (.ofNat (joinSurrogates code low), here.advance 10)
            else .ok (.ofNat code, here.advance 4)
      else .ok (.ofNat code, here.advance 4)
  | some code, _ :: _ => .ok (.ofNat code, here.advance 4)
  | _, _ => fail .unicodeEscape (here.offset - 1)

def stringFrom (start : Nat) :
    (fuel : Nat) → Str → Cursor → Except ReadFault (Str × Cursor)
  | 0, _, _ => fail .unterminatedString start
  | fuel + 1, read, here =>
      match here.rest with
      | [] => fail .unterminatedString start
      | .char '"' :: _ => .ok (read.reverse, here.advance 1)
      | [.char '\\'] => fail .unterminatedString start
      | .char '\\' :: .char 'u' :: _ => do
          let (p, next) ← unicodeEscape (here.advance 2)
          stringFrom start fuel (p :: read) next
      | .char '\\' :: e :: _ =>
          match e.char?.bind namedEscape? with
          | some c => stringFrom start fuel (.char c :: read) (here.advance 2)
          | none => fail .escape here.offset
      | p :: _ =>
          if p.toNat ≤ 0x1f then fail .controlCharacter here.offset
          else stringFrom start fuel (p :: read) (here.advance 1)

def readString (here : Cursor) : Except ReadFault (Str × Cursor) :=
  stringFrom (here.offset - 1) (here.rest.length + 1) [] here

def leadingExponent : List Char → List Char
  | [] => []
  | c :: cs =>
      if c == 'e' || c == 'E' then
        let sign := cs.take (if cs.head? == some '+' || cs.head? == some '-' then 1 else 0)
        match (cs.drop sign.length).takeWhile isDigit with
        | [] => []
        | ds => c :: (sign ++ ds)
      else []

def leadingFraction : List Char → List Char
  | '.' :: cs =>
      match cs.takeWhile isDigit with
      | [] => []
      | ds => '.' :: ds
  | _ => []

def leadingMinus : List Char → List Char
  | '-' :: _ => ['-']
  | _ => []

/-- The digits at the start of a text. Zeros before other digits are not read. -/
def leadingWhole : List Char → List Char
  | '0' :: _ => ['0']
  | cs => cs.takeWhile isDigit

def numberValue (offset : Nat) (plain : Bool) (token : List Char) : Except ReadFault Value :=
  if plain then
    match Decimal.integerOf token with
    | .ok n => .ok (.int n)
    | .error count => .error (.tooManyDigits count)
  else
    match Decimal.Written.ofChars? token with
    | some written => .ok (.float written.toFloat)
    | none => fail .value offset

def readNumber (here : Cursor) : Except ReadFault (Value × Cursor) :=
  let text := here.rest.leading
  let sign := leadingMinus text
  let unsigned := text.drop sign.length
  let whole := leadingWhole unsigned
  let afterWhole := unsigned.drop whole.length
  let fraction := leadingFraction afterWhole
  let power := leadingExponent (afterWhole.drop fraction.length)
  let token := sign ++ (whole ++ (fraction ++ power))
  if whole.isEmpty then fail .value here.offset
  else do
    let v ← numberValue here.offset (fraction.isEmpty && power.isEmpty) token
    return (v, here.advance token.length)

def words : List (String × Value) :=
  [("null", .null),
    ("true", .bool true),
    ("false", .bool false),
    ("NaN", .float (0.0 / 0.0)),
    ("Infinity", .float Decimal.infinity),
    ("-Infinity", .float (-Decimal.infinity))]

def readWord? (here : Cursor) : Option (Value × Cursor) :=
  (words.find? fun w => (Str.of w.1).isPrefixOf here.rest).map fun w =>
    (w.2, here.advance w.1.length)

mutual

def readValue : (fuel : Nat) → Cursor → Except ReadFault (Value × Cursor)
  | 0, here => fail .value here.offset
  | fuel + 1, here =>
      match here.rest with
      | .char '"' :: _ => do
          let (s, next) ← readString (here.advance 1)
          return (.str s, next)
      | .char '{' :: _ => do
          let inside := skipSpace (here.advance 1)
          if inside.rest.head? == some (.char '}') then return (.dict [], inside.advance 1)
          let (pairs, next) ← readPairs fuel [] inside
          return (.dict (pairs.map fun p => (.str p.1, p.2)), next)
      | .char '[' :: _ => do
          let inside := skipSpace (here.advance 1)
          if inside.rest.head? == some (.char ']') then return (.list [], inside.advance 1)
          let (items, next) ← readItems fuel inside
          return (.list items, next)
      | _ =>
          match readWord? here with
          | some found => .ok found
          | none => readNumber here

def readItems : (fuel : Nat) → Cursor → Except ReadFault (List Value × Cursor)
  | 0, here => fail .value here.offset
  | fuel + 1, here => do
      let (v, next) ← readValue fuel here
      let next := skipSpace next
      match next.rest with
      | .char ']' :: _ => return ([v], next.advance 1)
      | .char ',' :: _ => do
          let (vs, last) ← readItems fuel (skipSpace (next.advance 1))
          return (v :: vs, last)
      | _ => fail .comma next.offset

def readPairs :
    (fuel : Nat) → List (Str × Value) → Cursor →
      Except ReadFault (List (Str × Value) × Cursor)
  | 0, _, here => fail .value here.offset
  | fuel + 1, pairs, here => do
      match here.rest with
      | .char '"' :: _ => do
          let (key, next) ← readString (here.advance 1)
          let next := skipSpace next
          match next.rest with
          | .char ':' :: _ => do
              let (v, next) ← readValue fuel (skipSpace (next.advance 1))
              let next := skipSpace next
              let pairs := Value.putText pairs key v
              match next.rest with
              | .char '}' :: _ => return (pairs, next.advance 1)
              | .char ',' :: _ => readPairs fuel pairs (skipSpace (next.advance 1))
              | _ => fail .comma next.offset
          | _ => fail .colon next.offset
      | _ => fail .propertyName here.offset

end

def read (text : Str) : Except ReadFault Value := do
  if text.head? == some (.char (Char.ofNat 0xfeff)) then fail .byteOrderMark 0
  let (v, next) ← readValue (2 * text.length + 2) (skipSpace ⟨0, text⟩)
  let last := skipSpace next
  if last.rest.isEmpty then return v else fail .extraData last.offset

def ReadFault.toFault (text : Str) : ReadFault → Fault
  | .tooManyDigits count => .tooManyDigits count
  | .malformed problem offset =>
      let before := text.take offset
      let last := before.reverse.takeWhile (· != .char '\n')
      let column := offset + 1 - (before.length - last.length)
      .other "JSONDecodeError"
        (problem.message ++ ": line " ++ toString (before.count (.char '\n') + 1) ++ " column " ++
          toString column ++ " (char " ++ toString offset ++ ")")

end QueryShell.Json
