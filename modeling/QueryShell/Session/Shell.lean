import QueryShell.Connection.Access
import QueryShell.Session.State

namespace QueryShell.Session

open Connection
open Render (Console)

structure Ending where
  raised : Option Stop
  console : Console
  prompts : List String
  line : Line

def Stop.ofFault (fault : Fault) : Stop :=
  .failed (.fault fault)

variable [Statement.CharacterNames] [Text.Codecs]

def readFrom (prompts : List String) (s : State) : List Input → Progress × List String
  | [] =>
      if s.isRunning then ((s.close, none), s.prompt :: prompts) else ((s, none), prompts)
  | input :: inputs =>
      if s.isRunning then
        match s.step input with
        | (next, none) => readFrom (s.prompt :: prompts) next inputs
        | (next, some fault) => ((next, some fault), s.prompt :: prompts)
      else ((s, none), prompts)

def greetings (client : Client) (database : String) : List String :=
  (if database == "" then [] else ["Starting shell for database " ++ database]) ++
    ["Connected to " ++ client.options.endpoint, "Type Ctrl+D or .exit to exit the shell"]

def greet (console : Console) : List String → Console.Shown
  | [] => (console, none)
  | greeting :: rest =>
      match console.printMarkup greeting with
      | (console, none) => greet console rest
      | failed => failed

def converse (client : Client) (database : String) (console : Console) (line : Line)
    (inputs : List Input) : Ending :=
  match greet console (greetings client database) with
  | (console, some fault) => ⟨some (Stop.ofFault fault), console, [], line⟩
  | (console, none) =>
      let start := State.start client Query.catalogueScope database console line
      let ((s, fault), prompts) := readFrom [] start inputs
      ⟨fault.map Stop.ofFault, s.console, prompts.reverse, s.line⟩

def runShell (root : Client) (database : String) (console : Console) (service : Service)
    (inputs : List Input) : Ending :=
  match root.access (.idle service) database with
  | (.error stop, line) => ⟨some stop, console, [], line.release none⟩
  | (.ok client, line) =>
      let ending := converse client database console line inputs
      { ending with line := ending.line.release (some client) }

end QueryShell.Session
