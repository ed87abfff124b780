import QueryShell.Fault
import QueryShell.Text.Encoding

namespace QueryShell.Connection

def apiVersion : String := "4"

def driverName : String := "fauna-shell-python"

def requestMethod : String := "POST"

def jsonType : String := "application/json"

structure Request where
  url : String
  authorization : String
  contentType : Option String
  timeout : Option Float
  body : String

structure Interrupt where
  kind : String
  message : String
  deriving DecidableEq, Repr

def Interrupt.toFault (i : Interrupt) : Fault :=
  .other i.kind i.message

inductive Reply where
  | response (status : Nat) (contentType : Option String) (body : List UInt8)
  | unreachable (kind message : String)
  | fault (fault : Fault)
  | interrupted (interrupt : Interrupt)

inductive Identity where
  | root
  | scoped (database : String)
  deriving DecidableEq, Repr

inductive Event where
  | sent (identity : Identity) (request : Request)
  | closed (identity : Identity)

abbrev Service := List Request → Request → Reply

structure Line where
  service : Service
  events : List Event

namespace Line

def idle (service : Service) : Line :=
  ⟨service, []⟩

def requests (line : Line) : List Request :=
  line.events.filterMap fun
    | .sent _ request => some request
    | .closed _ => none

def send (line : Line) (identity : Identity) (request : Request) : Reply × Line :=
  (line.service line.requests request,
    { line with events := .sent identity request :: line.events })

def close (line : Line) (identity : Identity) : Line :=
  { line with events := .closed identity :: line.events }

def sent (line : Line) : List Request :=
  line.requests.reverse

def isClosed (line : Line) (identity : Identity) : Bool :=
  line.events.any fun
    | .closed other => other == identity
    | .sent .. => false

end Line

def echo (request : Request) : Reply :=
  .response 200 none (Text.encodeUtf8 ("\x7b\"resource\":" ++ request.body ++ "\x7d"))

def scripted (replies : List Reply) : Service :=
  fun before request => (replies[before.length]?).getD (echo request)

def outOfReach : Service :=
  fun _ _ => .unreachable "ConnectError" "no connection is available"

end QueryShell.Connection
