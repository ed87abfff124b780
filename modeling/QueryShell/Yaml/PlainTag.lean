import QueryShell.Text.Blank
import QueryShell.Yaml.ScalarText

namespace QueryShell.Yaml

inductive Tag where
  | null
  | bool
  | int
  | float
  | timestamp
  | binary
  | text
  | sequence
  | mapping
  | set
  | pairs
  | merge
  | default
  | unknown
  deriving DecidableEq, Repr

def nullWords : List String := ["", "~", "null", "Null", "NULL"]

def trueWords : List String := ["yes", "Yes", "YES", "true", "True", "TRUE", "on", "On", "ON"]

def falseWords : List String := ["no", "No", "NO", "false", "False", "FALSE", "off", "Off", "OFF"]

def dropSign : List Char → List Char
  | '+' :: cs | '-' :: cs => cs
  | cs => cs

def isDigitOrGap (c : Char) : Bool :=
  isAsciiDigit c || c == '_'

def isDigitRun : List Char → Bool
  | [] => false
  | c :: cs => isAsciiDigit c && cs.all isDigitOrGap

def isSexagesimal (cs : List Char) : Bool :=
  match cs with
  | [d] => isAsciiDigit d
  | [t, d] => '0' ≤ t && t ≤ '5' && isAsciiDigit d
  | _ => false

def isPlaces (first : List Char → Bool) (cs : List Char) : Bool :=
  match Text.splitAt ':' cs with
  | head :: place :: places => first head && (place :: places).all isSexagesimal
  | _ => false

def startsAboveZero (cs : List Char) : Bool :=
  isDigitRun cs && cs.head? != some '0'

def isInt (cs : List Char) : Bool :=
  match dropSign cs with
  | '0' :: 'b' :: ds => !ds.isEmpty && ds.all fun d => d == '0' || d == '1' || d == '_'
  | '0' :: 'x' :: ds => !ds.isEmpty && ds.all fun d => (Text.hexValue? d).isSome || d == '_'
  | '0' :: ds => ds.all fun d => ('0' ≤ d && d ≤ '7') || d == '_'
  | ds => startsAboveZero ds || isPlaces startsAboveZero ds

def isExponent : List Char → Bool
  | [] => true
  | e :: sign :: ds =>
      (e == 'e' || e == 'E') && (sign == '+' || sign == '-') && !ds.isEmpty && ds.all isAsciiDigit
  | _ => false

def isFraction (cs : List Char) : Bool :=
  isExponent (cs.dropWhile isDigitOrGap)

def isFloat (cs : List Char) : Bool :=
  let unsigned := dropSign cs
  let whole := unsigned.takeWhile (· != '.')
  match cs, unsigned.drop whole.length with
  | '.' :: d :: ds, _ =>
      (isAsciiDigit d && isFraction ds) || ["inf", "Inf", "INF", "nan", "NaN", "NAN"].contains
        (String.ofList (d :: ds))
  | _, '.' :: fraction =>
      if whole.isEmpty then ["inf", "Inf", "INF"].contains (String.ofList fraction)
      else (isDigitRun whole && isFraction fraction) ||
        (isPlaces isDigitRun whole && fraction.all isDigitOrGap)
  | _, _ => false

structure Timestamp where
  year : Nat
  month : Nat
  day : Nat
  clock : Option (Nat × Nat × Nat × List Char)
  zone : Option Int
  deriving Repr

def takeDigits (least most : Nat) (cs : List Char) : Option (Nat × List Char) :=
  let digits := (cs.take most).takeWhile isAsciiDigit
  if digits.length < least then none else some (Text.decimalValue digits, cs.drop digits.length)

def takeMark (mark : Char) (cs : List Char) : Option (List Char) :=
  if cs.head? == some mark then some cs.tail else none

def takeDateEnd : List Char → Option (List Char)
  | [] => none
  | c :: cs =>
      if c == 'T' || c == 't' then some cs
      else if isSpaceOrTab c then some (cs.dropWhile isSpaceOrTab)
      else none

def takeFraction (cs : List Char) : List Char × List Char :=
  match cs with
  | '.' :: ds => (ds.takeWhile isAsciiDigit, ds.dropWhile isAsciiDigit)
  | _ => ([], cs)

def zone? (cs : List Char) : Option (Option Int) :=
  match cs, cs.dropWhile isSpaceOrTab with
  | [], _ => some none
  | _, ['Z'] => some (some 0)
  | _, sign :: rest =>
      if sign == '+' || sign == '-' then do
        let (hours, rest) ← takeDigits 1 2 rest
        let (minutes, rest) ←
          if rest.isEmpty then some (0, []) else takeMark ':' rest >>= takeDigits 2 2
        let ahead : Int := 60 * hours + minutes
        if rest.isEmpty then some (some (if sign == '-' then -ahead else ahead)) else none
      else none
  | _, [] => none

/-- The parts of a time. A date by itself has two digits for month and day if it is `strict`. -/
def Timestamp.ofChars? (strict : Bool) (cs : List Char) : Option Timestamp := do
  let (year, rest) ← takeDigits 4 4 cs
  let (month, rest) ← takeMark '-' rest >>= takeDigits 1 2
  let (day, rest) ← takeMark '-' rest >>= takeDigits 1 2
  if rest.isEmpty then
    if strict && cs.length != 10 then none else some ⟨year, month, day, none, none⟩
  else
    let (hour, rest) ← takeDateEnd rest >>= takeDigits 1 2
    let (minute, rest) ← takeMark ':' rest >>= takeDigits 2 2
    let (second, rest) ← takeMark ':' rest >>= takeDigits 2 2
    let (fraction, rest) := takeFraction rest
    let zone ← zone? rest
    return ⟨year, month, day, some (hour, minute, second, fraction), zone⟩

def isTimestamp (cs : List Char) : Bool :=
  (Timestamp.ofChars? true cs).isSome

def withoutLastBreak (cs : List Char) : List Char :=
  if cs.getLast? == some '\n' && cs.length != 1 then cs.dropLast else cs

def plainTag (text : List Char) : Tag :=
  let cs := withoutLastBreak text
  let word := String.ofList cs
  if nullWords.contains word then .null
  else if trueWords.contains word || falseWords.contains word then .bool
  else if isFloat cs then .float
  else if isInt cs then .int
  else if isTimestamp cs then .timestamp
  else if word == "<<" then .merge
  else if word == "=" then .default
  else .text

end QueryShell.Yaml
