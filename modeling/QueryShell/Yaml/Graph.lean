import QueryShell.Yaml.PlainTag

namespace QueryShell.Yaml

abbrev Place := Nat

inductive Node where
  | scalar (tag : Tag) (text : Str)
  | sequence (tag : Tag) (items : List Place)
  | mapping (tag : Tag) (pairs : List (Place × Place))
  deriving DecidableEq, Repr

namespace Node

def tag : Node → Tag
  | .scalar tag _ | .sequence tag _ | .mapping tag _ => tag

def withTag (tag : Tag) : Node → Node
  | .scalar _ text => .scalar tag text
  | .sequence _ items => .sequence tag items
  | .mapping _ pairs => .mapping tag pairs

def empty : Node :=
  .scalar .null []

def pairs : Node → List (Place × Place)
  | .mapping _ pairs => pairs
  | .scalar .. | .sequence .. => []

end Node

abbrev Graph := Array Node

namespace Graph

def node (g : Graph) (place : Place) : Node :=
  g.getD place .empty

def tag (g : Graph) (place : Place) : Tag :=
  (g.node place).tag

def pairCount (g : Graph) : Nat :=
  g.foldl (fun count n => count + n.pairs.length) 0

def pairWith? (g : Graph) (tag : Tag) (pairs : List (Place × Place)) : Option (Place × Place) :=
  pairs.find? fun p => g.tag p.1 = tag

end Graph

end QueryShell.Yaml
