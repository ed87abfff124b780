import QueryShell.Decimal.Shortest

namespace QueryShell.Decimal

structure Style where
  plainFrom : Int
  plainBelow : Int
  exponentWidth : Nat
  infinity : String
  undefined : String
  deriving Repr

def digitChars (n : Nat) : List Char :=
  Nat.toDigits 10 n

def integerChars : Int → List Char
  | .ofNat n => digitChars n
  | .negSucc n => '-' :: digitChars (n + 1)

def integer (n : Int) : String :=
  String.ofList (integerChars n)

def zeros (n : Nat) : List Char :=
  List.replicate n '0'

def plain (digits : List Char) (point : Int) : List Char :=
  if point ≤ 0 then '0' :: '.' :: (zeros (-point).toNat ++ digits)
  else
    let whole := point.toNat
    if digits.length ≤ whole then digits ++ zeros (whole - digits.length) ++ ['.', '0']
    else digits.take whole ++ '.' :: digits.drop whole

def Style.withExponent (style : Style) (digits : List Char) (point : Int) : List Char :=
  let exponent := point - 1
  let power := digitChars exponent.natAbs
  let mantissa :=
    match digits with
    | [] => []
    | [d] => [d]
    | d :: ds => d :: '.' :: ds
  mantissa ++ 'e' :: (if exponent < 0 then '-' else '+') ::
    (zeros (style.exponentWidth - power.length) ++ power)

def Style.layOut (style : Style) (d : Digits) : List Char :=
  let digits := digitChars d.value
  if style.plainFrom < d.point && d.point ≤ style.plainBelow then plain digits d.point
  else style.withExponent digits d.point

def Style.chars (style : Style) (x : Float) : List Char :=
  let signed (negative : Bool) (cs : List Char) := if negative then '-' :: cs else cs
  match read x with
  | .undefined => style.undefined.toList
  | .infinite negative => signed negative style.infinity.toList
  | .finite negative v =>
      signed negative (if v.mantissa == 0 then ['0', '.', '0'] else style.layOut v.shortest)

/-- Numbers from 0.0001 up to 10¹⁶ are written without an exponent, others with a signed one of two
digits or more. -/
def shellStyle : Style :=
  { plainFrom := -4
    plainBelow := 16
    exponentWidth := 2
    infinity := "inf"
    undefined := "nan" }

def float (x : Float) : String :=
  String.ofList (shellStyle.chars x)

end QueryShell.Decimal
