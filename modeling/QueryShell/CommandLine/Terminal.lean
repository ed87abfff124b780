import QueryShell.Session.Shell

namespace QueryShell.CommandLine

open Session (Input)

inductive Key where
  | character (c : Char)
  | enter
  | erase
  | interrupt
  | endOfInput
  | other
  deriving DecidableEq, Repr

def Key.ofChar (c : Char) : Key :=
  if c = '\r' || c = '\n' then .enter
  else if c = '\x7f' || c = '\x08' then .erase
  else if c = '\x03' then .interrupt
  else if c = '\x04' then .endOfInput
  else if c.toNat < 0x20 then .other
  else .character c

def inputsFrom (typed : List Char) : List Key → List Input
  | [] => []
  | key :: keys =>
      match key with
      | .character c => inputsFrom (c :: typed) keys
      | .enter => .line typed.reverse :: inputsFrom [] keys
      | .erase => inputsFrom typed.tail keys
      | .interrupt => .interrupt :: inputsFrom [] keys
      | .endOfInput =>
          if typed.isEmpty then .endOfInput :: inputsFrom [] keys else inputsFrom typed keys
      | .other => inputsFrom typed keys

def inputsOf (keys : List Key) : List Input :=
  inputsFrom [] keys

def remember (history : List (List Char)) (line : List Char) : List (List Char) :=
  if line.isEmpty || history.head? == some line then history else line :: history

def historyOf (inputs : List Input) : List (List Char) :=
  (inputs.foldl (fun history input =>
    match input with
    | .line text => remember history text
    | _ => history) []).reverse

end QueryShell.CommandLine
