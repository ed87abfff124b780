import QueryShell.Yaml.Compose
import QueryShell.Yaml.Data

namespace QueryShell.Yaml

structure Building where
  graph : Graph
  built : List (Place × Data)
  found : Array Place

abbrev Build := StateT Building (Except Defect)

namespace Build

def malformed : Build α :=
  throw .malformed

def nodeAt (place : Place) : Build Node := do
  return (← get).graph.node place

def setNode (place : Place) (node : Node) : Build Unit :=
  modify fun b => { b with graph := b.graph.setIfInBounds place node }

def takeMerge (place : Place) : Build (Option Place) := do
  let graph := (← get).graph
  match graph.node place with
  | .mapping tag pairs =>
      match graph.pairWith? .merge pairs with
      | some merge =>
          setNode place (.mapping tag (pairs.erase merge))
          return some merge.2
      | none => return none
  | .scalar .. | .sequence .. => return none

def clearMarks (place : Place) : Build Unit := do
  for pair in (← nodeAt place).pairs do
    let key ← nodeAt pair.1
    if key.tag = .default then setNode pair.1 (key.withTag .text)

def addPairs (place : Place) (pairs : List (Place × Place)) : Build Unit := do
  match ← nodeAt place with
  | .mapping tag own => setNode place (.mapping tag (pairs ++ own))
  | .scalar .. | .sequence .. => return

mutual

def flatten : (fuel : Nat) → Place → Build Unit
  | 0, _ => malformed
  | fuel + 1, place => do
      match ← takeMerge place with
      | none => clearMarks place
      | some source =>
          let pairs ← mergedPairs fuel source
          flatten fuel place
          addPairs place pairs

def mergedPairs : (fuel : Nat) → Place → Build (List (Place × Place))
  | 0, _ => malformed
  | fuel + 1, source => do
      match ← nodeAt source with
      | .mapping .. => flatPairs fuel source
      | .sequence _ items => return (← items.mapM (flatPairs fuel)).reverse.flatten
      | .scalar .. => malformed

def flatPairs : (fuel : Nat) → Place → Build (List (Place × Place))
  | 0, _ => malformed
  | fuel + 1, place => do
      match ← nodeAt place with
      | .mapping .. =>
          flatten fuel place
          return (← nodeAt place).pairs
      | .scalar .. | .sequence .. => malformed

end

def endlessScalar : Defect :=
  .fault (.other "RecursionError" "maximum recursion depth exceeded")

/-- The text of a node as a scalar; a mapping with a value of its own stands for that. A mapping
whose own value leads back to itself has no text. -/
def scalarText (g : Graph) : (fuel : Nat) → Place → Except Defect Str
  | 0, _ => .error endlessScalar
  | fuel + 1, place =>
      match g.node place with
      | .scalar _ text => .ok text
      | .sequence .. => .error .malformed
      | .mapping _ pairs =>
          match g.pairWith? .default pairs with
          | some own => scalarText g fuel own.2
          | none => .error .malformed

def scalarAt (g : Graph) (place : Place) : Except Defect Scalar := do
  let text ← scalarText g (g.size + 1) place
  match g.node place with
  | .mapping .timestamp _ => throw (.fault (.textExpected "list"))
  | node => scalarValue node.tag text

def isCollection : Tag → Bool
  | .sequence | .mapping | .set | .pairs => true
  | _ => false

def firstValue (place : Place) : Build Data := do
  let b ← get
  if isCollection (b.graph.tag place) then
    set { b with found := b.found.push place }
    return .collection b.found.size
  else return .scalar (← scalarAt b.graph place)

def value (place : Place) : Build Data := do
  match (← get).built.lookup place with
  | some data => return data
  | none =>
      let data ← firstValue place
      modify fun b => { b with built := (place, data) :: b.built }
      return data

def key (place : Place) : Build Scalar := do
  match ← value place with
  | .scalar s => return s
  | .collection _ => malformed

def entries (written : List (Scalar × Data)) :
    List (Place × Place) → Build (List (Scalar × Data))
  | [] => return written
  | (k, v) :: pairs => do
      let k ← key k
      entries (putUnder written k (← value v)) pairs

def mappingEntries (place : Place) : Build (List (Scalar × Data)) := do
  let fuel := 3 * (← get).graph.pairCount + 3
  entries [] (← flatPairs fuel place)

def pair (place : Place) : Build (Data × Data) := do
  match ← nodeAt place with
  | .mapping _ [(k, v)] =>
      let k ← value k
      return (k, ← value v)
  | _ => malformed

def items (place : Place) : Build (List Place) := do
  match ← nodeAt place with
  | .sequence _ items => return items
  | .scalar .. | .mapping .. => malformed

def contents (place : Place) : Build Contents := do
  match (← nodeAt place).tag with
  | .set => return .set ((← mappingEntries place).map (·.1))
  | .mapping => return .dict (← mappingEntries place)
  | .pairs => return .pairs (← (← items place).mapM pair)
  | _ => return .list (← (← items place).mapM value)

def allContents : (fuel : Nat) → (index : Nat) → Build (List Contents)
  | 0, _ => return []
  | fuel + 1, index => do
      match (← get).found[index]? with
      | none => return []
      | some place =>
          let first ← contents place
          return first :: (← allContents fuel (index + 1))

def document (root : Place) : Build Document := do
  let value ← value root
  return ⟨value, ← allContents ((← get).graph.size + 1) 0⟩

end Build

def read (text : List Char) : Except Defect Document := do
  match ← nodesOf text with
  | (_, none) => return ⟨.scalar .null, []⟩
  | (graph, some root) => return (← (Build.document root).run ⟨graph, [], #[]⟩).1

end QueryShell.Yaml
