import QueryShell.Yaml.Character

namespace QueryShell.Yaml

structure Cursor where
  rest : List Char
  index : Nat
  line : Nat
  /-- How many characters stand before it on its line; a byte order mark is none. -/
  column : Nat

namespace Cursor

def start (cs : List Char) : Cursor :=
  ⟨cs, 0, 0, 0⟩

def step (k : Cursor) : Cursor :=
  match k.rest with
  | [] => k
  | c :: cs =>
      if isBreak c then ⟨cs, k.index + 1, k.line + 1, 0⟩
      else if c == '\ufeff' then ⟨cs, k.index + 1, k.line, k.column⟩
      else ⟨cs, k.index + 1, k.line, k.column + 1⟩

def advance (k : Cursor) : Nat → Cursor
  | 0 => k
  | n + 1 => k.step.advance n

def moveTo (k : Cursor) (rest : List Char) : Cursor :=
  k.advance (k.rest.length - rest.length)

def skipWhile (k : Cursor) (p : Char → Bool) : Cursor :=
  k.advance (k.rest.takeWhile p).length

def next? (k : Cursor) : Option Char :=
  k.rest.head?

def isAtEnd (k : Cursor) : Bool :=
  k.rest.isEmpty

def takeBreak (k : Cursor) : Option Char × Cursor :=
  match k.rest with
  | c :: _ => if isBreak c then (some (breakText c), k.step) else (none, k)
  | [] => (none, k)

def closeLine? (k : Cursor) : Option Cursor :=
  let k := k.skipWhile (· == ' ')
  let k := if k.next? == some '#' then k.skipWhile (!isBreak ·) else k
  if endsLine k.rest then some k.takeBreak.2 else none

end Cursor

end QueryShell.Yaml
