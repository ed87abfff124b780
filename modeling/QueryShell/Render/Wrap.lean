import QueryShell.Text.Blank
import QueryShell.Text.Cells

namespace QueryShell.Render

def isUnprinted (c : Char) : Bool :=
  let n := c.toNat
  n == 7 || n == 8 || n == 11 || n == 12 || n == 13

def withoutControls (cs : List Char) : List Char :=
  cs.filter fun c => !isUnprinted c

def tabWidth : Nat := 8

def fillBetween (cells : Nat) : List (List Char) → List Char
  | [] => []
  | [part] => part
  | part :: parts =>
      let ended := cells + Text.cellLength part
      let fill := tabWidth - ended % tabWidth
      part ++ Text.spaces fill ++ fillBetween (ended + fill) parts

def expandTabs (cs : List Char) : List Char :=
  fillBetween 0 (Text.splitAt '\t' cs)

def words (cs : List Char) : List (List Char) :=
  let runs := cs.splitBy fun a b => !Text.isBlank a || Text.isBlank b
  match runs with
  | [] => []
  | first :: rest =>
      if first.all Text.isBlank then
        match rest with
        | [] => []
        | second :: others => (first ++ second) :: others
      else first :: rest

inductive Overflow where
  | fold
  | ellipsis
  deriving DecidableEq, Repr

structure Filling where
  finished : List (List Char)
  words : List (List Char)
  cells : Nat

namespace Filling

def empty : Filling :=
  ⟨[], [], 0⟩

def line (f : Filling) : List Char :=
  f.words.reverse.flatten

def begun (f : Filling) : Bool :=
  f.words.any (!·.isEmpty) || f.finished.any (!·.isEmpty)

def extend (f : Filling) (word : List Char) : Filling :=
  ⟨f.finished, word :: f.words, f.cells + Text.cellLength word⟩

def startWith (f : Filling) (word : List Char) : Filling :=
  if f.begun then ⟨f.line :: f.finished, [word], Text.cellLength word⟩
  else ⟨f.finished, word :: f.words, Text.cellLength word⟩

def place (overflow : Overflow) (width : Nat) (f : Filling) (word : List Char) : Filling :=
  let cells := Text.cellLength (Text.trimRight word)
  if f.cells + cells ≤ width then f.extend word
  else if cells ≤ width || overflow = .ellipsis then f.startWith word
  else (Text.chop width word).foldl startWith f

def lines (f : Filling) : List (List Char) :=
  (f.line :: f.finished).reverse

end Filling

def dropTrailing (width : Nat) (cs : List Char) : List Char :=
  let blanks := (cs.reverse.takeWhile Text.isBlank).length
  cs.take (cs.length - min blanks (cs.length - width))

def truncate (overflow : Overflow) (width : Nat) (cs : List Char) : List Char :=
  if Text.cellLength cs ≤ width then cs
  else
    match overflow with
    | .fold => Text.fitCells cs width
    | .ellipsis => Text.fitCells cs (width - 1) ++ ['…']

def wrapLine (overflow : Overflow) (width : Nat) (cs : List Char) : List (List Char) :=
  let cs := expandTabs cs
  let parts :=
    match words cs with
    | [] => [cs]
    | ws => (ws.foldl (Filling.place overflow width) .empty).lines
  parts.map fun part => truncate overflow width (dropTrailing width part)

def wrap (overflow : Overflow) (width : Nat) (cs : List Char) : List (List Char) :=
  (Text.lines cs).flatMap (wrapLine overflow width)

end QueryShell.Render
