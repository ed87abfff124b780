import QueryShell.Decimal.Power
import QueryShell.Text.Digit

namespace QueryShell.Decimal

def digitLimit : Nat := 4300

def infinity : Float := Float.ofBits 0x7ff0000000000000

def roundedQuotient (num den : Nat) : Nat :=
  let below := num / den
  let twice := 2 * (num % den)
  if twice < den || (twice == den && below % 2 == 0) then below else below + 1

def exponentOf (num den : Nat) : Int :=
  let guess : Int := (num.log2 : Int) - den.log2 - 53
  let small := num * twoTo (-(guess + 53)).toNat < den * twoTo (guess + 53).toNat
  max (if small then guess else guess + 1) (-1074)

def infinityBits : Nat :=
  2047 * twoTo 52

/-- The bits of the floating-point number nearest to a fraction. The first bit of a mantissa counts
as one more in the exponent, and so does a carry beyond it. -/
def nearestBits (num den : Nat) : Nat :=
  let exponent := exponentOf num den
  let mantissa := roundedQuotient (num * twoTo (-exponent).toNat) (den * twoTo exponent.toNat)
  min ((exponent + 1074).toNat * twoTo 52 + mantissa) infinityBits

def nearest (negative : Bool) (digits : List Nat) (power : Int) : Float :=
  let digits := digits.dropWhile (· == 0)
  let mantissa := Text.spelled 10 digits
  let point := (digits.length : Int) + power
  let bits :=
    if mantissa == 0 || point < -400 then 0
    else if 400 < point then infinityBits
    else nearestBits (mantissa * tenTo power.toNat) (tenTo (-power).toNat)
  Float.ofBits (UInt64.ofNat ((if negative then twoTo 63 else 0) + bits))

def signed (negative : Bool) (x : Float) : Float :=
  if negative then -x else x

def signedInt (negative : Bool) (n : Nat) : Int :=
  if negative then -(n : Int) else n

structure Written where
  negative : Bool
  whole : List Nat
  fraction : List Nat
  power : Int
  deriving Repr

def Written.toFloat (w : Written) : Float :=
  nearest w.negative (w.whole ++ w.fraction) (w.power - w.fraction.length)

def digitsOf (cs : List Char) : List Nat :=
  cs.filterMap Text.digitValue?

def takeSign : List Char → Bool × List Char
  | '-' :: cs => (true, cs)
  | '+' :: cs => (false, cs)
  | cs => (false, cs)

def exponent? : List Char → Option Int
  | [] => some 0
  | c :: cs =>
      if c == 'e' || c == 'E' then
        let (negative, digits) := takeSign cs
        if !digits.isEmpty && digits.all Text.isDigit then
          some (signedInt negative (Text.decimalValue digits))
        else none
      else none

def Written.ofChars? (cs : List Char) : Option Written :=
  let (negative, unsigned) := takeSign cs
  let whole := unsigned.takeWhile Text.isDigit
  let afterWhole := unsigned.drop whole.length
  let fraction :=
    if afterWhole.head? == some '.' then afterWhole.tail.takeWhile Text.isDigit else []
  let afterFraction :=
    if afterWhole.head? == some '.' then afterWhole.tail.drop fraction.length else afterWhole
  if whole.isEmpty && fraction.isEmpty then none
  else (exponent? afterFraction).map fun power =>
    ⟨negative, digitsOf whole, digitsOf fraction, power⟩

def integerOf (cs : List Char) : Except Nat Int :=
  let (negative, digits) := takeSign cs
  if digits.length ≤ digitLimit then .ok (signedInt negative (Text.decimalValue digits))
  else .error digits.length

def dropUnderscores? (afterDigit : Bool) : List Char → Option (List Char)
  | [] => some []
  | '_' :: cs =>
      match afterDigit, cs with
      | true, d :: _ => if Text.isDigit d then dropUnderscores? false cs else none
      | _, _ => none
  | c :: cs => (dropUnderscores? (Text.isDigit c) cs).map (c :: ·)

def isInfinityWord (cs : List Char) : Bool :=
  cs == "inf".toList || cs == "infinity".toList

/-- A floating-point number as people write it: also with underscores between digits, and as a
word for infinity or for no number. -/
def float? (cs : List Char) : Option Float :=
  let (negative, unsigned) := takeSign cs
  let word := unsigned.map Char.toLower
  if isInfinityWord word then some (signed negative infinity)
  else if word == "nan".toList then some (0.0 / 0.0)
  else
    match dropUnderscores? false cs with
    | none => none
    | some plain => (Written.ofChars? plain).map Written.toFloat

end QueryShell.Decimal
