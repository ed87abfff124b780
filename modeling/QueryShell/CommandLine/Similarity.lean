namespace QueryShell.CommandLine

def commonLength : List Char → List Char → Nat
  | a :: as, b :: bs => if a = b then commonLength as bs + 1 else 0
  | _, _ => 0

structure Shared where
  first : Nat
  second : Nat
  length : Nat
  deriving Repr

def Shared.better (s t : Shared) : Shared :=
  if s.length < t.length then t else s

def sharedAtHead (first : Nat) (as : List Char) (best : Shared) :
    (second : Nat) → List Char → Shared
  | _, [] => best
  | second, b :: bs =>
      sharedAtHead first as (best.better ⟨first, second, commonLength as (b :: bs)⟩) (second + 1) bs

def longestShared (best : Shared) (first : Nat) (bs : List Char) : List Char → Shared
  | [] => best
  | a :: as => longestShared (sharedAtHead first (a :: as) best 0 bs) (first + 1) bs as

def alike : (fuel : Nat) → List Char → List Char → Nat
  | 0, _, _ => 0
  | fuel + 1, as, bs =>
      let s := longestShared ⟨0, 0, 0⟩ 0 bs as
      if s.length = 0 then 0
      else
        alike fuel (as.take s.first) (bs.take s.second) + s.length +
          alike fuel (as.drop (s.first + s.length)) (bs.drop (s.second + s.length))

structure Candidate where
  text : String
  alike : Nat
  total : Nat

def candidate (word text : String) : Candidate :=
  let as := text.toList
  let bs := word.toList
  ⟨text, CommandLine.alike (as.length + 1) as bs, as.length + bs.length⟩

def Candidate.isClose (c : Candidate) : Bool :=
  3 * c.total ≤ 10 * c.alike

def Candidate.atLeast (c d : Candidate) : Bool :=
  if c.alike * d.total = d.alike * c.total then d.text ≤ c.text
  else d.alike * c.total < c.alike * d.total

def closeMatches (word : String) (texts : List String) : List String :=
  let close := (texts.map (candidate word)).filter Candidate.isClose
  ((close.mergeSort Candidate.atLeast).take 3).map Candidate.text

end QueryShell.CommandLine
