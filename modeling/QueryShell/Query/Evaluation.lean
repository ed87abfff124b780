import QueryShell.Query.Call
import QueryShell.ShellError
import QueryShell.Statement.Node

namespace QueryShell.Query

open Statement (Node)

abbrev Scope := List (String × Value)

def catalogueScope : Scope :=
  catalogue.map fun h => (h.name, .helper h)

def undefinedName (name : String) : Failure :=
  .reported (.evaluation (name ++ " is not defined"))

def notAFunction (name : String) : Failure :=
  .reported (.evaluation (name ++ " is not a function"))

def lookup (scope : Scope) (name : String) : Except Failure Value :=
  match scope.lookup name with
  | some v => .ok v
  | none => .error (undefinedName name)

def lookupHelper (scope : Scope) (name : String) : Except Failure Helper := do
  match ← lookup scope name with
  | .helper h => return h
  | _ => throw (notAFunction name)

def callHelper (name : String) (h : Helper) (args : List Value) : Except Failure Value :=
  match h.call args with
  | .ok v => .ok v
  | .error fault =>
      .error (if fault.isTypeFault then .reported (.evaluation (name ++ ": " ++ fault.message))
        else .fault fault)

mutual

def evaluate (scope : Scope) : Node → Except Failure Value
  | .literal v => .ok v
  | .identifier name => lookup scope name
  | .call name args => do
      let helper ← lookupHelper scope name
      callHelper name helper (← evaluateAll scope args)
  | .array items => return .list (← evaluateAll scope items)
  | .object pairs => return Value.ofTextPairs (← evaluatePairs scope pairs)
  | .stray v => .error (.fault (.notEvaluable v.typeName))
termination_by structural node => node

def evaluateAll (scope : Scope) : List Node → Except Failure (List Value)
  | [] => .ok []
  | node :: nodes => return (← evaluate scope node) :: (← evaluateAll scope nodes)
termination_by structural nodes => nodes

def evaluatePairs (scope : Scope) :
    List (Str × Node) → Except Failure (List (Str × Value))
  | [] => .ok []
  | (key, node) :: pairs => return (key, ← evaluate scope node) :: (← evaluatePairs scope pairs)
termination_by structural pairs => pairs

end

end QueryShell.Query
