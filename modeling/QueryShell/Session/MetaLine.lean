import QueryShell.Text.Blank

namespace QueryShell.Session

structure MetaLine where
  name : List Char
  argument : List Char
  deriving DecidableEq, Repr

def isCommandChar (c : Char) : Bool :=
  c.isAlpha || c == '_'

/-- Reads a line. Its argument must not hold a line feed. -/
def metaLine? (line : List Char) : Option MetaLine :=
  match Text.trim line with
  | '.' :: rest =>
      let name := rest.takeWhile isCommandChar
      let after := rest.drop name.length
      let argument := Text.trimLeft after
      if name.isEmpty then none
      else if after.isEmpty then some ⟨name, []⟩
      else if argument.length < after.length && !argument.contains '\n' then some ⟨name, argument⟩
      else none
  | _ => none

end QueryShell.Session
