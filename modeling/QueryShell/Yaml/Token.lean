import QueryShell.CodePoint
import QueryShell.Fault

namespace QueryShell.Yaml

inductive Directive where
  | version (major : Nat)
  | handle (handle uri : String)
  | other
  deriving DecidableEq, Repr

inductive Token where
  | directive (directive : Directive)
  | documentStart
  | documentEnd
  | blockSequence
  | blockMapping
  | blockEnd
  | flowSequence
  | flowSequenceEnd
  | flowMapping
  | flowMappingEnd
  | item
  | comma
  | key
  | value
  | aliasOf (name : String)
  | anchor (name : String)
  | tag (handle : Option String) (suffix : String)
  /-- A scalar; a plain one stands without quotes and in one piece with what surrounds it. -/
  | scalar (plain : Bool) (text : Str)
  deriving DecidableEq, Repr

inductive Defect where
  | malformed
  | fault (fault : Fault)

def orMalformed (x : Option α) : Except Defect α :=
  match x with
  | some a => .ok a
  | none => .error .malformed

end QueryShell.Yaml
