import QueryShell.Decimal.Reading

namespace QueryShell.Decimal

/-- The number `mantissa * 2 ^ exponent`. The flag says that the gap to the next smaller number is
half the gap to the next larger one. -/
structure Binary where
  mantissa : Nat
  exponent : Int
  narrowBelow : Bool
  deriving DecidableEq, Repr

inductive Reading where
  | finite (negative : Bool) (value : Binary)
  | infinite (negative : Bool)
  | undefined
  deriving DecidableEq, Repr

def Reading.ofBits (bits : UInt64) : Reading :=
  let b : Nat := bits.toNat
  let negative := b / twoTo 63 == 1
  let scale : Nat := b / twoTo 52 % twoTo 11
  let fraction : Nat := b % twoTo 52
  if scale == 2047 then
    if fraction == 0 then .infinite negative else .undefined
  else if scale == 0 then .finite negative ⟨fraction, -1074, false⟩
  else .finite negative ⟨twoTo 52 + fraction, (scale : Int) - 1075, fraction == 0 && scale > 1⟩

def read (x : Float) : Reading :=
  .ofBits x.toBits

def isFinite (x : Float) : Bool :=
  match read x with
  | .finite .. => true
  | _ => false

def Binary.ratio (v : Binary) : Nat × Nat :=
  (v.mantissa * twoTo v.exponent.toNat, twoTo (-v.exponent).toNat)

def toInt? (x : Float) : Option Int :=
  match read x with
  | .finite negative v =>
      let (num, den) := v.ratio
      if num % den == 0 then some (if negative then -(num / den : Nat) else (num / den : Nat))
      else none
  | _ => none

def ofInt? (n : Int) : Option Float :=
  let x := nearest (n < 0) (digitsOf (Nat.toDigits 10 n.natAbs)) 0
  if isFinite x then some x else none

end QueryShell.Decimal
