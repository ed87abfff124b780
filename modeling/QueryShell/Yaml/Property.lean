import QueryShell.Decimal.Reading
import QueryShell.Text.Encoding
import QueryShell.Yaml.ScalarText

namespace QueryShell.Yaml

def scanName? (k : Cursor) : Option (String × Cursor) :=
  let name := k.rest.takeWhile isNameChar
  if name.isEmpty then none else some (String.ofList name, k.advance name.length)

def endsAnchor (cs : List Char) : Bool :=
  endsToken cs ||
    (cs.head?.map fun c => ['?', ':', ',', ']', '\x7d', '%', '@', '\x60'].contains c).getD false

def scanAnchor? (k : Cursor) : Option (String × Cursor) :=
  match scanName? k.step with
  | some (name, k) => if endsAnchor k.rest then some (name, k) else none
  | none => none

def isUriChar (c : Char) : Bool :=
  isNameChar c || ";/?:@&=+$,.!~*'()[]".toList.contains c

def escapedBytes : List Char → Option (List UInt8 × List Char)
  | '%' :: cs =>
      match cs with
      | a :: b :: rest =>
          match Text.hexValue? a, Text.hexValue? b, escapedBytes rest with
          | some x, some y, some (bytes, rest) => some (UInt8.ofNat (16 * x + y) :: bytes, rest)
          | _, _, _ => none
      | _ => none
  | cs => some ([], cs)

def uriFrom : (fuel : Nat) → List Char → Option (List Char × List Char)
  | 0, cs => some ([], cs)
  | _, [] => some ([], [])
  | fuel + 1, c :: cs =>
      if c == '%' then do
        let (bytes, rest) ← escapedBytes (c :: cs)
        let piece ← Text.decodeStrict? .utf8 bytes
        let (text, rest) ← uriFrom fuel rest
        return (piece ++ text, rest)
      else if isUriChar c then (uriFrom fuel cs).map fun r => (c :: r.1, r.2)
      else some ([], c :: cs)

def scanUri? (k : Cursor) : Option (String × Cursor) := do
  let (text, rest) ← uriFrom (k.rest.length + 1) k.rest
  if rest.length = k.rest.length then none
  else some (String.ofList text, k.moveTo rest)

def scanHandle? (k : Cursor) : Option (String × Cursor) :=
  match k.rest with
  | '!' :: cs =>
      if cs.head? == some ' ' then some ("!", k.step)
      else
        let name := cs.takeWhile isNameChar
        if (cs.drop name.length).head? == some '!' then
          some (String.ofList ('!' :: name ++ ['!']), k.advance (name.length + 2))
        else if name.isEmpty then some ("!", k.step)
        else none
  | _ => none

def scanTag? (k : Cursor) : Option (Token × Cursor) := do
  let (token, k) ← tagBody
  if endsWord k.rest then some (token, k) else none
where
  tagBody : Option (Token × Cursor) :=
    let body := k.rest.tail
    if body.head? == some '<' then do
      let (suffix, k) ← scanUri? (k.advance 2)
      if k.next? == some '>' then some (.tag none suffix, k.step) else none
    else if endsToken body then some (.tag none "!", k.step)
    else do
      let word := body.takeWhile fun c => c != ' ' && !isBreak c
      let (handle, k) ← if word.contains '!' then scanHandle? k else some ("!", k.step)
      let (suffix, k) ← scanUri? k
      some (.tag (some handle) suffix, k)

def scanNumber (k : Cursor) : Except Defect (Nat × Cursor) :=
  let digits := k.rest.takeWhile isAsciiDigit
  if digits.isEmpty then .error .malformed
  else if Decimal.digitLimit < digits.length then .error (.fault (.tooManyDigits digits.length))
  else .ok (Text.decimalValue digits, k.advance digits.length)

def spaced (k : Cursor) : Cursor :=
  k.skipWhile (· == ' ')

def scanVersion (k : Cursor) : Except Defect (Directive × Cursor) := do
  let (major, k) ← scanNumber (spaced k)
  if k.next? != some '.' then throw .malformed
  let (_, k) ← scanNumber k.step
  if endsWord k.rest then return (.version major, k) else throw .malformed

def scanHandleDirective? (k : Cursor) : Option (Directive × Cursor) := do
  let (handle, k) ← scanHandle? (spaced k)
  if k.next? != some ' ' then none
  else
    let (uri, k) ← scanUri? (spaced k)
    if endsWord k.rest then some (.handle handle uri, k) else none

def scanDirective (k : Cursor) : Except Defect (Directive × Cursor) := do
  let (name, k) ← orMalformed (scanName? k.step)
  if !endsWord k.rest then throw .malformed
  let (directive, k) ←
    if name == "YAML" then scanVersion k
    else if name == "TAG" then orMalformed (scanHandleDirective? k)
    else pure (.other, k.skipWhile (!isBreak ·))
  return (directive, ← orMalformed k.closeLine?)

end QueryShell.Yaml
