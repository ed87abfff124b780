import QueryShell.Decimal.Binary

namespace QueryShell.Decimal

/-- The decimal `0.d₁d₂…dₙ * 10 ^ point`, given by the number that its digits spell. -/
structure Digits where
  value : Nat
  point : Int
  deriving DecidableEq, Repr

structure Interval where
  low : Nat
  centre : Nat
  high : Nat
  den : Nat
  closed : Bool
  deriving Repr

def Binary.interval (v : Binary) : Interval :=
  let unit := twoTo v.exponent.toNat
  let centre := 4 * v.mantissa * unit
  { low := centre - (if v.narrowBelow then unit else 2 * unit)
    centre := centre
    high := centre + 2 * unit
    den := 4 * twoTo (-v.exponent).toNat
    closed := v.mantissa % 2 == 0 }

def Interval.has (i : Interval) (digits : Nat) (grid : Int) : Bool :=
  let scaled := digits * tenTo grid.toNat * i.den
  let scale := tenTo (-grid).toNat
  if i.closed then i.low * scale ≤ scaled && scaled ≤ i.high * scale
  else i.low * scale < scaled && scaled < i.high * scale

def pointOf (num den : Nat) : Int :=
  let guess : Int := ((num.log2 : Int) - den.log2 - 1) * 30103 / 100000 - 1
  go 8 guess
where
  go : Nat → Int → Int
    | 0, point => point
    | steps + 1, point =>
        if num * tenTo (-point).toNat < den * tenTo point.toNat then point
        else go steps (point + 1)

def Interval.pick (i : Interval) (grid : Int) : Option Nat :=
  let num := i.centre * tenTo (-grid).toNat
  let den := i.den * tenTo grid.toNat
  let below := num / den
  let hitBelow := i.has below grid
  let hitAbove := i.has (below + 1) grid
  if hitBelow && hitAbove then
    let twice := 2 * num
    let middle := (2 * below + 1) * den
    if twice < middle || (twice == middle && below % 2 == 0) then some below else some (below + 1)
  else if hitBelow then some below
  else if hitAbove then some (below + 1)
  else none

def stripZeros : (fuel : Nat) → Nat → Nat
  | 0, n => n
  | fuel + 1, n => if n != 0 && n % 10 == 0 then stripZeros fuel (n / 10) else n

def Binary.shortest (v : Binary) : Digits :=
  let i := v.interval
  let point := pointOf i.centre i.den
  let found := (List.range 17).findSome? fun k =>
    (i.pick (point - (k + 1 : Nat))).map fun value => (value, k + 1)
  match found with
  | none => ⟨0, 0⟩
  | some (value, count) =>
      if value == tenTo count then ⟨1, point + 1⟩ else ⟨stripZeros 17 value, point⟩

end QueryShell.Decimal
