import QueryShell.Connection.MediaType
import QueryShell.Connection.Options
import QueryShell.Connection.Rejection
import QueryShell.Connection.Service
import QueryShell.Connection.Url
import QueryShell.Json.Bytes
import QueryShell.Json.Writer
import QueryShell.Query.Wire
import QueryShell.Value.Tagged

namespace QueryShell.Connection

structure Client where
  options : Options
  identity : Identity
  secret : String
  url : Url

inductive Stop where
  | failed (failure : Failure)
  | interrupted (interrupt : Interrupt)

namespace Client

def make (options : Options) (identity : Identity) (secret : String) : Except Fault Client := do
  let address := options.domain.toList ++ ':' :: Decimal.integerChars options.port
  let url ← Url.parse options.scheme address
  return ⟨options, identity, if secret == "" then options.secret else secret, url.withTrailingSlash⟩

def root (options : Options) : Except Fault Client :=
  make options .root ""

def scopedSecret (secret database : String) : String :=
  secret ++ ":" ++ database ++ ":admin"

def scopedTo (c : Client) (database : String) : Client :=
  { c with
    identity := .scoped database
    secret := scopedSecret c.options.secret database }

def authorization (c : Client) : String :=
  "Basic " ++ String.ofList
    ((Text.Base64.encode (Text.encodeUtf8 (c.secret ++ ":"))).map fun ch =>
      if ch = '-' then '+' else if ch = '_' then '/' else ch)

/-- A request for a wire form. A bare null has no body. -/
def request (c : Client) (wire : Value) : Except Fault Request := do
  let body ← Json.write wire >>= Text.encodable
  let bodied := !wire.isNull
  return {
    url := c.url.text
    authorization := c.authorization
    contentType := if bodied then some jsonType else none
    timeout := c.options.timeout
    body := if bodied then body else "" }

def isErrorStatus (status : Nat) : Bool :=
  400 ≤ status && status ≤ 599

def noResult (status : Nat) (payload : Value) : ShellError :=
  { cause := .service (some status) .null
    message := .str "Response did not contain a result."
    payload := payload }

def bodyPayload (text : Str) : Value :=
  .dict [(.str "body", .str text)]

def resource? : Value → Option Value
  | .dict pairs => Value.field? pairs "resource"
  | _ => none

variable [Text.Codecs]

/-- Reads an answer. A body that is not JSON counts as null, and then its text is looked at. -/
def readResponse (status : Nat) (contentType : Option String) (body : List UInt8) :
    Except Failure Value := do
  let payload := (Json.readBytes? body).getD .null
  let text :=
    if payload.isNull then ((charsetOf contentType).read body).mapError Failure.fault else .ok []
  if isErrorStatus status then
    let text ← text
    throw (.reported (rejection status (if text.isEmpty then payload else bodyPayload text)))
  else
    match resource? payload with
    | some v => v.decode.mapError .fault
    | none =>
        let text ← text
        throw (.reported (noResult status
          (if payload.isNull then bodyPayload text else payload)))

def unreachable (c : Client) (kind message : String) : ShellError :=
  .transport ("Could not reach " ++ c.options.endpoint ++ ": " ++
    (if message == "" then kind else message))

def readReply (c : Client) : Reply → Except Stop Value
  | .response status contentType body =>
      (readResponse status contentType body).mapError .failed
  | .unreachable kind message => .error (.failed (.reported (c.unreachable kind message)))
  | .fault f => .error (.failed (.fault f))
  | .interrupted i => .error (.interrupted i)

def query (c : Client) (line : Line) (expression : Value) : Except Stop Value × Line :=
  match Query.toWire expression >>= c.request with
  | .error f => (.error (.failed (.fault f)), line)
  | .ok request =>
      let (reply, line) := line.send c.identity request
      (c.readReply reply, line)

end Client

end QueryShell.Connection
