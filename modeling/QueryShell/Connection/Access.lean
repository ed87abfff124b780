import QueryShell.Connection.Client
import QueryShell.Query.Call

namespace QueryShell.Connection

def databaseMissing (database : String) : ShellError :=
  { cause := .databaseMissing
    message := .str ("Database '" ++ database ++ "' doesn't exist") }

def existenceCheck (database : String) : Value :=
  .expr [(.str "exists", .expr [(.str "database", .str database)])]

variable [Text.Codecs]

def Client.access (root : Client) (line : Line) (database : String) :
    Except Stop Client × Line :=
  if database == "" then (.ok root, line)
  else
    let (found, line) := root.query line (existenceCheck database)
    match found with
    | .error stop => (.error stop, line)
    | .ok v =>
        if v.truthy then (.ok (root.scopedTo database), line)
        else (.error (.failed (.reported (databaseMissing database))), line)

def Line.release (line : Line) (handedOut : Option Client) : Line :=
  let line := line.close .root
  match handedOut with
  | some client => if client.identity = .root then line else line.close client.identity
  | none => line

end QueryShell.Connection
