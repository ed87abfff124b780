import QueryShell.Decimal.Reading
import QueryShell.Text.Blank

namespace QueryShell.Config

def isPlainDigit (c : Char) : Bool :=
  '0' ≤ c && c ≤ '9'

inductive IntegerFault where
  | malformed
  | oversized
  deriving DecidableEq, Repr

/-- How many digits an integer may have, a minus included. -/
def integerLimit : Nat := 4300

def plainInt (cs : List Char) : Except IntegerFault Int :=
  let negative := cs.head? == some '-'
  let unsigned := if negative then cs.tail else cs
  let digits := unsigned.takeWhile isPlainDigit
  let leadingZero := digits.head? == some '0' && digits.tail != []
  if digits.isEmpty || leadingZero then .error .malformed
  else if integerLimit < digits.length + (cs.length - unsigned.length) then .error .oversized
  else if digits.length < unsigned.length then .error .malformed
  else .ok (Decimal.signedInt negative (Text.decimalValue digits))

def gapsFit (last : Char) : List Char → Bool
  | [] => last != '_'
  | c :: cs =>
      let fits :=
        if c == '_' then isPlainDigit last else if last == '_' then isPlainDigit c else true
      fits && gapsFit c cs

def dropGaps (cs : List Char) : List Char :=
  if gapsFit ' ' cs then cs.filter (· != '_') else cs

/-- Drops zeros, and underscores among them, up to what follows them, or to the last one of a text
of zeros or before a point. -/
def dropZeros (last : Char) : List Char → Option (List Char)
  | [] => some [last]
  | c :: cs =>
      if c == '0' || c == '_' then dropZeros c cs
      else if isPlainDigit c || c == '-' then some (c :: cs)
      else if c == '.' then some (last :: c :: cs)
      else none

def dropLeadingZeros : List Char → Option (List Char)
  | [] => none
  | c :: cs =>
      if c == '0' then dropZeros c cs
      else if isPlainDigit c || c == '-' then some (c :: cs)
      else none

def dropPlus : List Char → Option (List Char)
  | '+' :: cs => if cs.head? == some '-' then none else some cs
  | cs => some cs

/-- Drops a fraction of zeros. A point with nothing after it is no fraction. -/
def dropZeroFraction (cs : List Char) : List Char :=
  let fraction := (cs.dropWhile (· != '.')).tail
  if !fraction.isEmpty && fraction.all (· == '0') then cs.takeWhile (· != '.') else cs

def writtenInt (cs : List Char) : Except IntegerFault Int :=
  match plainInt cs with
  | .error .malformed =>
      match dropPlus (Text.trimAround cs) >>= dropLeadingZeros with
      | some digits => plainInt (dropGaps (dropZeroFraction digits))
      | none => .error .malformed
  | result => result

def plainFloat? (cs : List Char) : Option Float :=
  let (negative, unsigned) := Decimal.takeSign cs
  let word := unsigned.map Char.toLower
  if Decimal.isInfinityWord word then some (Decimal.signed negative Decimal.infinity)
  else if word == "nan".toList then some (0.0 / 0.0)
  else if cs.all fun c => c.toNat < 128 then (Decimal.Written.ofChars? cs).map (·.toFloat)
  else none

def writtenFloat? (cs : List Char) : Option Float :=
  match plainFloat? (Text.trimAround cs) with
  | some x => some x
  | none => plainFloat? (dropGaps cs)

end QueryShell.Config
