import QueryShell.Value.Dictionary

namespace QueryShell

inductive Cause where
  | general
  | incomplete
  | wording (line column : Option Int)
  | evaluation
  | service (status : Option Int) (code : Value)
  | transport
  | databaseMissing
  | configuration

structure ShellError where
  cause : Cause
  /-- Text, unless the service described its error by something else. -/
  message : Value
  payload : Value := .null

namespace Cause

def name : Cause → String
  | .general => "ShellError"
  | .incomplete => "IncompleteInput"
  | .wording .. => "QuerySyntaxError"
  | .evaluation => "EvaluationError"
  | .service .. => "ServiceError"
  | .transport => "TransportError"
  | .databaseMissing => "ScopeNotFoundError"
  | .configuration => "ConfigError"

def kind : Cause → String
  | .wording .. => "SyntaxError"
  | cause => cause.name

end Cause

namespace ShellError

def incompleteMessage : String :=
  "Statement is incomplete."

def evaluation (message : String) : ShellError :=
  { cause := .evaluation, message := .str message }

def transport (message : String) : ShellError :=
  { cause := .transport, message := .str message }

def configuration (message : Str) : ShellError :=
  { cause := .configuration, message := .str message }

def ofFault (fault : Fault) : ShellError :=
  .evaluation fault.summary

def inspect (e : ShellError) : Except Fault Str :=
  return e.cause.name ++ "(" ++ (← e.message.inspect) ++ ")"

def text (e : ShellError) : Except Fault Str :=
  e.message.text

end ShellError

inductive Failure where
  | reported (error : ShellError)
  | fault (fault : Fault)

def Failure.toError : Failure → ShellError
  | .reported e => e
  | .fault f => .ofFault f

end QueryShell
