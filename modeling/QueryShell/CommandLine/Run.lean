import QueryShell.CommandLine.Invocation
import QueryShell.CommandLine.Terminal
import QueryShell.Config.Resolution

namespace QueryShell.CommandLine

open Connection
open Render (Console)

def Invocation.overrides (i : Invocation) : List (String × Value) :=
  let text (name : String) (v : Option String) : String × Value :=
    (name, (v.map fun s => Value.str s).getD .null)
  [text "secret" i.secret, text "domain" i.domain, text "scheme" i.scheme,
    ("port", (i.port.map .int).getD .null), ("timeout", (i.timeout.map .float).getD .null)]

structure Surroundings where
  home : String
  configuration : Option (List Char)
  variableFile : Option (List Char)
  environment : List (String × String)

def Invocation.sources (i : Invocation) (s : Surroundings) : Config.Sources :=
  { home := s.home
    configuration := s.configuration
    variableFile := s.variableFile
    environment := s.environment
    overrides := i.overrides
    endpoint := i.endpoint.getD "" }

def Invocation.options (i : Invocation) (s : Surroundings) : Except Failure Options :=
  (Config.resolve (i.sources s)).mapError Config.Unresolved.toFailure

def logLevels (verbose : Bool) : Nat × Nat :=
  if verbose then (10, 10) else (20, 30)

def errorWidth : Nat := 120

def failureText : Failure → Except Fault Str
  | .reported e =>
      match e.message with
      | .str s => .ok s
      | .bytes _ => .error (.other "TypeError" "cannot use a string pattern on a bytes-like object")
      | other => .error (.textExpected other.typeName)
  | .fault f => .ok f.message

def failureReport (failure : Failure) : Except Fault String := do
  let text ← failureText failure
  let markup := String.ofList (Console.errorMark ++ Render.escape text.shown)
  match (Console.ofWidth errorWidth).printMarkup markup with
  | (console, none) => return console.output
  | (_, some fault) => throw fault

structure Exit where
  code : Nat
  output : String
  errors : String
  deriving DecidableEq, Repr

def failed (output : String) (failure : Failure) : Except Fault Exit :=
  return ⟨1, output, ← failureReport failure⟩

def farewell : String :=
  "Exiting shell. Goodbye!\n"

def keyboardInterrupt : String := "KeyboardInterrupt"

/-- How the program ends after its shell has. Other interrupts than that of the keyboard escape. -/
def exitOf (ending : Session.Ending) : Except Fault Exit :=
  let output := ending.console.output
  match ending.raised with
  | none => .ok ⟨0, output ++ farewell, ""⟩
  | some (.failed failure) => failed output failure
  | some (.interrupted i) =>
      if i.kind == keyboardInterrupt then .ok ⟨0, output ++ farewell, ""⟩
      else .error i.toFault

structure Record where
  exit : Except Fault Exit
  requests : List Connection.Request
  history : List (List Char)

def inputsRead (ending : Session.Ending) (inputs : List Session.Input) : List Session.Input :=
  inputs.take ending.prompts.length

variable [Statement.CharacterNames] [Text.Codecs]

def runShell (options : Options) (database : Option String) (width : Nat) (service : Service)
    (inputs : List Session.Input) : Record :=
  match Client.root options with
  | .error fault => ⟨failed "" (.fault fault), [], []⟩
  | .ok root =>
      let ending :=
        Session.runShell root (database.getD "") (Console.ofWidth width) service inputs
      ⟨exitOf ending, ending.line.sent, historyOf (inputsRead ending inputs)⟩

def Invocation.run (i : Invocation) (s : Surroundings) (width : Nat) (service : Service)
    (inputs : List Session.Input) : Record :=
  match i.options s with
  | .error failure => ⟨failed "" failure, [], []⟩
  | .ok options => runShell options i.database width service inputs

end QueryShell.CommandLine
