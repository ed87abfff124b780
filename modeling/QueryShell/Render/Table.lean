import QueryShell.Render.Markup
import QueryShell.Render.Wrap

namespace QueryShell.Render

structure Row where
  left : List Char
  right : List Char

def naturalWidth (cs : List Char) : Nat :=
  ((Text.shownLines cs).map Text.cellLength).foldl max 0

def padding : Nat := 2

def frameWidth : Nat := 3

def columnWidth (room : Nat) (cells : List (List Char)) : Nat :=
  let wanted (cell : List Char) : Nat :=
    if room < padding + 1 then room else min room (naturalWidth cell + padding)
  if room == 0 then 0
  else if cells.isEmpty then room
  else (cells.map wanted).foldl max 0

structure Widths where
  left : Nat
  right : Nat

def Widths.total (w : Widths) : Nat :=
  w.left + w.right

def halfToEven (n : Nat) : Nat :=
  let half := n / 2
  if n % 2 == 1 && half % 2 == 1 then half + 1 else half

def Widths.reduceBoth (w : Widths) (excess mostLeft mostRight : Nat) : Widths :=
  let fromLeft := min mostLeft (halfToEven excess)
  let fromRight := min mostRight (excess - fromLeft)
  ⟨w.left - fromLeft, w.right - fromRight⟩

def Widths.collapse (w : Widths) (room : Nat) : (fuel : Nat) → Widths
  | 0 => w
  | fuel + 1 =>
      let excess := w.total - room
      if excess == 0 then w
      else if w.left == w.right then
        let most := min excess w.left
        if w.left == 0 then w else (w.reduceBoth excess most most).collapse room fuel
      else if w.right < w.left then
        let off := min excess (w.left - w.right)
        Widths.collapse ⟨w.left - off, w.right⟩ room fuel
      else
        let off := min excess (w.right - w.left)
        Widths.collapse ⟨w.left, w.right - off⟩ room fuel

def columnWidths (room : Nat) (rows : List Row) : Widths :=
  let lefts := rows.map (·.left)
  let rights := rows.map (·.right)
  let atLeastOne (n : Nat) := if n == 0 then 1 else n
  let wanted : Widths :=
    ⟨atLeastOne (columnWidth room lefts), atLeastOne (columnWidth room rights)⟩
  if wanted.total ≤ room then wanted
  else
    let shrunk := wanted.collapse room 3
    let shrunk :=
      if shrunk.total ≤ room then shrunk
      else shrunk.reduceBoth (shrunk.total - room) shrunk.left shrunk.right
    ⟨columnWidth shrunk.left lefts, columnWidth shrunk.right rights⟩

def cellLines (width : Nat) (cell : List Char) : List (List Char) :=
  if width < padding + 1 then []
  else
    let inner := width - padding
    (wrap .ellipsis inner cell).map fun line => ' ' :: (Text.fitCells line inner ++ [' '])

def rowLines (widths : Widths) (row : Row) : List (List Char) :=
  let lefts := cellLines widths.left row.left
  let rights := cellLines widths.right row.right
  let height := max 1 (max lefts.length rights.length)
  (List.range height).map fun i =>
    let at_ (lines : List (List Char)) (width : Nat) := lines[i]?.getD (Text.spaces width)
    ' ' :: (at_ lefts widths.left ++ ' ' :: (at_ rights widths.right ++ [' ']))

def tableLines (width : Nat) (rows : List Row) : List (List Char) :=
  let widths := columnWidths (width - frameWidth) rows
  let blank := Text.spaces (widths.total + frameWidth)
  let lines := blank :: (rows.flatMap (rowLines widths) ++ [blank])
  lines.map fun line =>
    if Text.cellLength line ≤ width then line else Text.fitCells line width

/-- The cells of a table show markup. It is not even read if the table has no room for text. -/
def rowOfMarkup (width : Nat) (left right : List Char) : Except Fault Row :=
  if width ≤ frameWidth + padding then return ⟨[], []⟩
  else return ⟨withoutControls (← markupText left), withoutControls (← markupText right)⟩

end QueryShell.Render
