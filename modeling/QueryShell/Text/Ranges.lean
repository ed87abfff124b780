import QueryShell.Text.Digit

/-!
Sets of characters that are given by ranges of code points, written as hexadecimal words such as
`7f-a0` or `ad`.
-/

namespace QueryShell.Text

structure Range where
  first : Nat
  last : Nat
  deriving DecidableEq, Repr

def Range.has (r : Range) (n : Nat) : Bool :=
  r.first ≤ n && n ≤ r.last

def hexNumber (cs : List Char) : Nat :=
  spelled 16 (cs.filterMap hexValue?)

def Range.ofWord (word : String) : Range :=
  match word.splitOn "-" with
  | [first, last] => ⟨hexNumber first.toList, hexNumber last.toList⟩
  | _ => ⟨hexNumber word.toList, hexNumber word.toList⟩

def words (lines : List String) : List String :=
  lines.flatMap fun line => line.splitOn " "

def Range.ofLines (lines : List String) : Array Range :=
  ((words lines).map Range.ofWord).toArray

/-- Looks for the last range that starts at or before the code point. -/
def inRanges (ranges : Array Range) (n : Nat) : Bool :=
  go ranges.size 0 ranges.size
where
  go : (steps lo hi : Nat) → Bool
    | 0, _, _ => false
    | steps + 1, lo, hi =>
        if lo < hi then
          let mid := (lo + hi) / 2
          match ranges[mid]? with
          | none => false
          | some r =>
              if n < r.first then go steps lo mid
              else if r.last < n then go steps (mid + 1) hi
              else true
        else false

end QueryShell.Text
