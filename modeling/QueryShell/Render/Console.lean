import QueryShell.Render.Layout
import QueryShell.Render.Table

namespace QueryShell.Render

structure Console where
  width : Nat
  fails : Nat → Bool
  calls : Nat
  output : String

namespace Console

def ofWidth (width : Nat) : Console :=
  ⟨width, fun _ => false, 0, ""⟩

def failing (width failures : Nat) : Console :=
  ⟨width, (· < failures), 0, ""⟩

def linesText (lines : List (List Char)) : String :=
  lines.foldl (fun acc line => acc ++ String.ofList line ++ "\n") ""

def print? (c : Console) (lines : Except Fault (List (List Char))) : Console × Bool :=
  let called := { c with calls := c.calls + 1 }
  match c.fails c.calls, lines with
  | false, .ok ls => ({ called with output := c.output ++ linesText ls }, true)
  | _, _ => (called, false)

def markupLines (width : Nat) (cs : List Char) : Except Fault (List (List Char)) :=
  return wrap .fold width (withoutControls (← markupText cs))

/-- The lines of a text whose brackets have no meaning. Emoji codes still have one. -/
def plainLines (width : Nat) (cs : List Char) : List (List Char) :=
  wrap .fold width (withoutControls (Text.withEmoji cs))

structure Printable where
  lines : Nat → Except Fault (List (List Char))
  bare : Except Fault Str
  typeName : String

/-- Prints the bare thing. Without a text for it there is no call. -/
def printBare? (c : Console) (thing : Printable) : Console × Bool :=
  match thing.bare with
  | .ok text => c.print? (.ok (plainLines c.width text.shown))
  | .error _ => (c, false)

def print (c : Console) (thing : Printable) : Console :=
  let (c, done) := c.print? (thing.lines c.width)
  if done then c
  else
    let (c, done) := c.printBare? thing
    if done then c
    else
      let mark := "<unrenderable " ++ thing.typeName ++ ">"
      (c.print? (.ok (plainLines c.width mark.toList))).1

end Console

end QueryShell.Render
