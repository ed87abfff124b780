import QueryShell.Render.Report
import QueryShell.Session.MetaLine
import QueryShell.Session.Outcome
import QueryShell.Statement.Reader

namespace QueryShell.Session

open Connection
open Render (Console)

inductive Phase where
  | idle
  | accumulating
  | evaluating
  | closed
  deriving DecidableEq, Repr

structure State where
  client : Client
  bindings : Query.Scope
  database : String
  phase : Phase
  buffer : List (List Char)
  lastError : Option ShellError
  console : Console
  line : Line
  clearFault : Option Fault

abbrev Progress := State × Option Fault

namespace State

def start (client : Client) (bindings : Query.Scope) (database : String) (console : Console)
    (line : Line) : State :=
  { client := client
    bindings := bindings
    database := database
    phase := .idle
    buffer := []
    lastError := none
    console := console
    line := line
    clearFault := none }

def continuationPrompt : String := "... "

def prompt (s : State) : String :=
  if s.buffer.isEmpty then s.database ++ "> " else continuationPrompt

def isRunning (s : State) : Bool :=
  s.phase != .closed

def abort (s : State) : State :=
  { s with
    buffer := []
    phase := if s.phase = .accumulating then .idle else s.phase }

def close (s : State) : State :=
  { s with phase := .closed }

def say (s : State) (message : String) : State :=
  { s with console := s.console.showMessage message }

def showing (s : State) (shown : Console.Shown) : Progress :=
  ({ s with console := shown.1 }, shown.2)

def act (s : State) : Action → Progress
  | .abort => (s.abort, none)
  | .exit => (s.close, none)
  | .help => ({ s with console := s.console.showCommands shellCommands }, none)
  | .clear => (s, s.clearFault)
  | .lastError => s.showing (s.console.showLastError s.lastError)

def runCommand (s : State) (m : MetaLine) : Progress :=
  match Registry.get? shellCommands (String.ofList m.name) with
  | none => (s.say "Invalid REPL keyword", none)
  | some command =>
      if m.argument.isEmpty then
        match s.act command.action with
        | (s, none) => (s, none)
        | (s, some fault) => s.showing (s.console.showError (.ofFault fault))
      else (s.say ("." ++ command.name ++ " does not take arguments"), none)

def interruptedError : ShellError :=
  .transport "Query interrupted"

def settle : Except Interrupt Outcome → Outcome
  | .ok outcome => outcome
  | .error _ => .failure interruptedError [] none

def report (s : State) (outcome : Outcome) : Progress :=
  match outcome.error with
  | some e =>
      let s := { s with lastError := some e }
      s.showing (s.console.showError e)
  | none => ({ s with console := s.console.showValue false outcome.value }, none)

variable [Text.Codecs]

def evaluate (s : State) (nodes : List Statement.Node) : Progress :=
  let s := { s with phase := .evaluating }
  let (result, line) := execute s.client s.bindings s.line nodes
  { s with phase := .idle, line := line }.report (settle result)

variable [Statement.CharacterNames]

def accept (s : State) (line : List Char) : Progress :=
  let s := { s with buffer := s.buffer ++ [line] }
  match Statement.read (Text.joinWith ['\n'] s.buffer) with
  | .incomplete => ({ s with phase := .accumulating }, none)
  | .malformed e =>
      let s := { s with buffer := [], phase := .idle, lastError := some e }
      s.showing (s.console.showError e)
  | .parsed nodes => { s with buffer := [] }.evaluate nodes
  | .escaped fault => (s, some fault)

def handleLine (s : State) (line : List Char) : Progress :=
  if s.isRunning then
    match metaLine? line with
    | some m => s.runCommand m
    | none =>
        if s.buffer.isEmpty && Statement.isBlank line then (s, none)
        else s.accept line
  else (s, none)

end State

inductive Input where
  | line (text : List Char)
  | interrupt
  | endOfInput
  deriving DecidableEq, Repr

namespace State

def exitHint : String :=
  "(To exit, press Ctrl+D or type .exit)"

variable [Statement.CharacterNames] [Text.Codecs]

def step (s : State) (input : Input) : Progress :=
  if s.isRunning then
    match input with
    | .line text => s.handleLine text
    | .interrupt => (if s.buffer.isEmpty then s.say exitHint else s.abort, none)
    | .endOfInput => (s.close, none)
  else (s, none)

end State

end QueryShell.Session
