import QueryShell.Connection.Client
import QueryShell.Query.Evaluation

namespace QueryShell.Session

open Connection
open Statement (Node)

structure Outcome where
  value : Value
  error : Option ShellError
  completed : List Value
  failedIndex : Option Nat

namespace Outcome

def success (results : List Value) : Outcome :=
  { value := match results with
      | [v] => v
      | vs => .list vs
    error := none
    completed := results
    failedIndex := none }

def failure (error : ShellError) (completed : List Value) (index : Option Nat) : Outcome :=
  { value := .null
    error := some error
    completed := completed
    failedIndex := index }

def ok (o : Outcome) : Bool :=
  o.error.isNone

end Outcome

variable [Text.Codecs]

def runStatement (client : Client) (scope : Query.Scope) (line : Line) (node : Node) :
    Except Stop Value × Line :=
  match Query.evaluate scope node with
  | .ok expression => client.query line expression
  | .error failure => (.error (.failed failure), line)

def executeFrom (client : Client) (scope : Query.Scope) (done : List Value) (line : Line) :
    List Node → Except Interrupt Outcome × Line
  | [] => (.ok (.success done.reverse), line)
  | node :: nodes =>
      match runStatement client scope line node with
      | (.ok result, line) => executeFrom client scope (result :: done) line nodes
      | (.error (.failed failure), line) =>
          (.ok (.failure failure.toError done.reverse (some done.length)), line)
      | (.error (.interrupted i), line) => (.error i, line)

def execute (client : Client) (scope : Query.Scope) (line : Line) (nodes : List Node) :
    Except Interrupt Outcome × Line :=
  executeFrom client scope [] line nodes

end QueryShell.Session
