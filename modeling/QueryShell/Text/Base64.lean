import QueryShell.Fault

namespace QueryShell.Text.Base64

def charOf (n : Nat) : Char :=
  if n < 26 then Char.ofNat (65 + n)
  else if n < 52 then Char.ofNat (71 + n)
  else if n < 62 then Char.ofNat (n - 4)
  else if n = 62 then '-'
  else '_'

def valueOf? (c : Char) : Option Nat :=
  if 'A' ≤ c && c ≤ 'Z' then some (c.toNat - 65)
  else if 'a' ≤ c && c ≤ 'z' then some (c.toNat - 71)
  else if '0' ≤ c && c ≤ '9' then some (c.toNat + 4)
  else if c == '-' || c == '+' then some 62
  else if c == '_' || c == '/' then some 63
  else none

def encode : List UInt8 → List Char
  | [] => []
  | [a] =>
      let a := a.toNat
      [charOf (a / 4), charOf (a % 4 * 16), '=', '=']
  | [a, b] =>
      let a := a.toNat
      let b := b.toNat
      [charOf (a / 4), charOf (a % 4 * 16 + b / 16), charOf (b % 16 * 4), '=']
  | a :: b :: c :: rest =>
      let x := a.toNat
      let y := b.toNat
      let z := c.toNat
      charOf (x / 4) :: charOf (x % 4 * 16 + y / 16) :: charOf (y % 16 * 4 + z / 64) ::
        charOf (z % 64) :: encode rest

structure State where
  bytes : List UInt8
  filled : Nat
  left : Nat
  pads : Nat

def State.push (s : State) (value : Nat) : State :=
  let byte (n : Nat) : List UInt8 := UInt8.ofNat n :: s.bytes
  match s.filled with
  | 0 => ⟨s.bytes, 1, value, 0⟩
  | 1 => ⟨byte (s.left * 4 + value / 16), 2, value % 16, 0⟩
  | 2 => ⟨byte (s.left * 16 + value / 4), 3, value % 4, 0⟩
  | _ => ⟨byte (s.left * 64 + value), 0, 0, 0⟩

def State.finish (s : State) : Except Base64Fault (List UInt8) :=
  match s.filled with
  | 0 => .ok s.bytes.reverse
  | 1 => .error (.oneOver (s.bytes.length / 3 * 4 + 1))
  | _ => .error .padding

def decodeFrom (s : State) : List Char → Except Base64Fault (List UInt8)
  | [] => s.finish
  | c :: cs =>
      if c = '=' then
        if s.filled < 2 then decodeFrom s cs
        else if 4 ≤ s.filled + s.pads + 1 then .ok s.bytes.reverse
        else decodeFrom { s with pads := s.pads + 1 } cs
      else
        match valueOf? c with
        | some value => decodeFrom (s.push value) cs
        | none => decodeFrom s cs

def decode (cs : List Char) : Except Base64Fault (List UInt8) :=
  decodeFrom ⟨[], 0, 0, 0⟩ cs

end QueryShell.Text.Base64
