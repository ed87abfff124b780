import QueryShell.Text.Blank

namespace QueryShell.Statement

structure Place where
  line : Nat
  column : Nat
  deriving DecidableEq, Repr

def lastLine (cs : List Char) : List Char :=
  (cs.reverse.takeWhile (· != '\n')).reverse

def firstLine (cs : List Char) : List Char :=
  cs.takeWhile (· != '\n')

def placeOf (text : List Char) (offset : Nat) : Place :=
  let before := text.take offset
  ⟨before.count '\n' + 1, (lastLine before).length + 1⟩

def tabWidth : Nat := 8

/-- The width of a line once its tabs are filled up; a carriage return starts anew. -/
def expandedWidth (cs : List Char) : Nat :=
  let (width, _) := cs.foldl step (0, 0)
  width
where
  step : Nat × Nat → Char → Nat × Nat
    | (width, column), c =>
        if c == '\t' then
          let fill := tabWidth - column % tabWidth
          (width + fill, column + fill)
        else if c == '\r' || c == '\n' then (width + 1, 0)
        else (width + 1, column + 1)

def excerptReach : Nat := 40

def excerpt (text : List Char) (offset : Nat) : List Char :=
  let before := lastLine ((text.take offset).drop (offset - excerptReach))
  let after := firstLine ((text.drop offset).take excerptReach)
  before ++ after ++ '\n' :: (List.replicate (expandedWidth before) ' ' ++ ['^'])

end QueryShell.Statement
