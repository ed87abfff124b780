import QueryShell.CommandLine.Run

namespace QueryShell.CommandLine

open Connection
open Session (State)

def fileText? (path : String) : IO (Option (List Char)) := do
  try
    let text ← IO.FS.readFile path
    return some text.toList
  catch _ => return none

def homeDirectory : IO String := do
  match ← IO.getEnv "FAUNA_SHELL_HOME" with
  | some home => return home
  | none => return ((← IO.getEnv "HOME").getD "") ++ "/.fauna-shell"

def environmentVariables : IO (List (String × String)) :=
  Config.Field.all.filterMapM fun field => do
    let value ← IO.getEnv field.variableName
    return value.map fun value => (field.variableName, value)

def surroundings : IO Surroundings := do
  let home ← homeDirectory
  return {
    home := home
    configuration := ← fileText? (home ++ "/config.yaml")
    variableFile := ← fileText? ".env"
    environment := ← environmentVariables }

def inputOfLine (line : String) : Session.Input :=
  if line.isEmpty then .endOfInput
  else .line (line.toList.takeWhile (· != '\n'))

partial def readLines (s : State) : IO (State × Option Fault) := do
  if s.isRunning then
    let stdout ← IO.getStdout
    stdout.putStr s.prompt
    stdout.flush
    let line ← (← IO.getStdin).getLine
    let (next, fault) := s.step (inputOfLine line)
    stdout.putStr (String.ofList (next.console.output.toList.drop s.console.output.length))
    match fault with
    | some _ => return (next, fault)
    | none => readLines next
  else return (s, none)

def finish (exit : Except Fault Exit) : IO UInt32 := do
  match exit with
  | .ok e =>
      (← IO.getStdout).putStr e.output
      (← IO.getStderr).putStr e.errors
      return UInt32.ofNat e.code
  | .error fault =>
      (← IO.getStderr).putStrLn fault.summary
      return 1

def converse (client : Client) (database : String) (line : Line) : IO UInt32 := do
  let console := Render.Console.ofWidth 80
  match Session.greet console (Session.greetings client database) with
  | (_, some fault) => finish (failed "" (.fault fault))
  | (console, none) =>
      (← IO.getStdout).putStr console.output
      let start := State.start client Query.catalogueScope database console line
      match ← readLines start with
      | (_, some fault) => finish (failed "" (.fault fault))
      | (_, none) => finish (.ok ⟨0, farewell, ""⟩)

def startShell (options : Options) (database : String) : IO UInt32 := do
  match Client.root options with
  | .error fault => finish (failed "" (.fault fault))
  | .ok root =>
      match root.access (.idle outOfReach) database with
      | (.ok client, line) => converse client database line
      | (.error stop, line) =>
          finish (exitOf ⟨some stop, Render.Console.ofWidth 80, [], line.release none⟩)

def run (words : List String) : IO UInt32 := do
  match request words with
  | .error misuse =>
      (← IO.getStderr).putStrLn (misuse.message?.getD "")
      return 2
  | .ok .help => return 0
  | .ok (.shell invocation) =>
      match invocation.options (← surroundings) with
      | .error failure => finish (failed "" failure)
      | .ok options => startShell options (invocation.database.getD "")

end QueryShell.CommandLine

def main (words : List String) : IO UInt32 :=
  QueryShell.CommandLine.run words
