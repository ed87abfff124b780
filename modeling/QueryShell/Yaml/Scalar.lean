import QueryShell.Decimal.Binary
import QueryShell.Text.Base64
import QueryShell.Text.Casing
import QueryShell.Value.Equality
import QueryShell.Yaml.Moment

namespace QueryShell.Yaml

inductive Scalar where
  | null
  | bool (b : Bool)
  | int (n : Int)
  | float (x : Float)
  /-- What the word for no number stands for: it equals itself, as no other such value does. -/
  | nan
  | text (s : Str)
  | bytes (data : List UInt8)
  | date (date : Date)
  | time (time : Time)
  deriving Repr

namespace Scalar

instance : Inhabited Scalar := ⟨.null⟩

def number? : Scalar → Option Value.Number
  | .bool b => some (.whole (if b then 1 else 0))
  | .int n => some (.whole n)
  | .float x => some (.binary x)
  | _ => none

def equal (s t : Scalar) : Bool :=
  match s, t with
  | .null, .null | .nan, .nan => true
  | .text a, .text b => a == b
  | .bytes a, .bytes b => a == b
  | .date d, .date e => d == e
  | .time t, .time u => t.equal u
  | _, _ =>
      match s.number?, t.number? with
      | some m, some n => m.equal n
      | _, _ => false

def isGiven : Scalar → Bool
  | .null => false
  | .bool b => b
  | .int n => n != 0
  | .float x => x != 0.0
  | .text s => !s.isEmpty
  | .bytes data => !data.isEmpty
  | .nan | .date _ | .time _ => true

def kind : Scalar → String
  | .null => "NoneType"
  | .bool _ => "bool"
  | .int _ => "int"
  | .float _ | .nan => "float"
  | .text _ => "str"
  | .bytes _ => "bytes"
  | .date _ => "datetime.date"
  | .time _ => "datetime.datetime"

end Scalar

def withoutGaps (cs : List Char) : List Char :=
  cs.filter (· != '_')

def emptyFault : Defect :=
  .fault (.other "IndexError" "string index out of range")

def shownText (cs : List Char) : String :=
  Text.quoted (.ofChars cs)

def boolOf (s : Str) : Except Defect Scalar :=
  let word := s.mapRuns Text.lower
  if trueWords.any fun known => word == known then .ok (.bool true)
  else if falseWords.any fun known => word == known then .ok (.bool false)
  else .error (.fault (.missingKey (Text.quoted word)))

def shownLimit : Nat := 200

def badInt (base : Nat) (cs : List Char) : Defect :=
  let shown := (shownText cs).toList.take shownLimit
  valueFault
    ("invalid literal for int() with base " ++ toString base ++ ": " ++ String.ofList shown)

def baseLetters (base : Nat) : List Char :=
  match base with
  | 2 => ['b', 'B']
  | 8 => ['o', 'O']
  | 16 => ['x', 'X']
  | _ => []

def dropBase (base : Nat) : List Char → List Char
  | z :: c :: cs =>
      if Text.digitValue? z == some 0 && (baseLetters base).contains c then cs else z :: c :: cs
  | cs => cs

def digitIn? (base : Nat) (c : Char) : Option Nat :=
  let value := (Text.digitValue? c).or (Text.hexValue? c)
  value.filter (· < base)

def integerIn (base : Nat) (cs : List Char) : Except Defect Int :=
  let (negative, unsigned) := Decimal.takeSign (Text.trimAround cs)
  let digits := dropBase base unsigned
  let values := (digits.map (digitIn? base)).takeWhile Option.isSome
  if base == 10 && Decimal.digitLimit < values.length then
    .error (.fault (.tooManyDigits values.length))
  else if values.isEmpty || values.length < digits.length then .error (badInt base cs)
  else .ok (Decimal.signedInt negative (Text.spelled base (values.filterMap id)))

def placesInt (cs : List Char) : Except Defect Int :=
  return (← (Text.splitAt ':' cs).mapM (integerIn 10)).foldl (fun acc n => acc * 60 + n) 0

def magnitude (cs : List Char) : Except Defect Int :=
  match cs with
  | [] => .error emptyFault
  | '0' :: 'b' :: ds => integerIn 2 ds
  | '0' :: 'x' :: ds => integerIn 16 ds
  | '0' :: ds => integerIn 8 ('0' :: ds)
  | ds => if ds.contains ':' then placesInt ds else integerIn 10 ds

def intOf (cs : List Char) : Except Defect Scalar := do
  let plain := withoutGaps cs
  if plain.isEmpty then throw emptyFault
  let n ← magnitude (dropSign plain)
  return .int (if plain.head? == some '-' then -n else n)

def floatPart (cs : List Char) : Except Defect Float :=
  match Decimal.float? (Text.trimAround cs) with
  | some x => .ok x
  | none => .error (valueFault ("could not convert string to float: " ++ shownText cs))

/-- Adds places of sixty, the last one first. Sixty may only be raised to a power that a
floating-point number can stand for. -/
def sumPlaces (sum : Float) (unit : Nat) : List Float → Except Defect Float
  | [] => .ok sum
  | x :: xs =>
      match Decimal.ofInt? unit with
      | some u => sumPlaces (sum + x * u) (60 * unit) xs
      | none => .error (.fault (.other "OverflowError" "int too large to convert to float"))

def placesFloat (cs : List Char) : Except Defect Float := do
  sumPlaces 0.0 1 (← (Text.splitAt ':' cs).mapM floatPart).reverse

def floatOf (cs : List Char) : Except Defect Scalar := do
  let plain := Text.lower (withoutGaps cs)
  if plain.isEmpty then throw emptyFault
  let unsigned := dropSign plain
  let signed := Decimal.signed (plain.head? == some '-')
  if unsigned == ".inf".toList then return .float (signed Decimal.infinity)
  else if unsigned == ".nan".toList then return .nan
  else if unsigned.contains ':' then return .float (signed (← placesFloat unsigned))
  else return .float (signed (← floatPart unsigned))

def timestampOf (cs : List Char) : Except Defect Scalar :=
  match Timestamp.ofChars? false (withoutLastBreak cs) with
  | none => .error (.fault (.noAttribute "NoneType" "groupdict"))
  | some t => do
      let date : Date := ⟨t.year, t.month, t.day⟩
      match t.clock with
      | none =>
          checkDate date
          return .date date
      | some (hour, minute, second, fraction) =>
          let time : Time := ⟨date, hour, minute, second, microseconds fraction, t.zone⟩
          checkZone t.zone
          checkDate date
          checkClock time
          return .time time

def bytesOf (cs : List Char) : Except Defect Scalar :=
  if cs.all fun c => c.toNat < 128 then
    match Text.Base64.decode (cs.filter fun c => c != '-' && c != '_') with
    | .ok data => .ok (.bytes data)
    | .error _ => .error .malformed
  else .error .malformed

def scalarValue (tag : Tag) (s : Str) : Except Defect Scalar :=
  match tag with
  | .null => .ok .null
  | .bool => boolOf s
  | .int => intOf s.shown
  | .float => floatOf s.shown
  | .timestamp => timestampOf s.shown
  | .binary => bytesOf s.shown
  | .text => .ok (.text s)
  | .sequence | .mapping | .set | .pairs | .merge | .default | .unknown => .error .malformed

end QueryShell.Yaml
