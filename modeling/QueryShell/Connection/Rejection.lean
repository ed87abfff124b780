import QueryShell.ShellError

namespace QueryShell.Connection

def statusMessage (status : Int) : Value :=
  .str ("Request failed with HTTP status " ++ Decimal.integer status ++ ".")

def firstError? : Value → Option (List (Value × Value))
  | .dict pairs =>
      match Value.field? pairs "errors" with
      | some (.list (.dict first :: _)) => some first
      | _ => none
  | _ => none

/-- The first value that counts as true, else the last one. -/
def firstTruthy (a b c : Value) : Value :=
  if a.truthy then a else if b.truthy then b else c

def rejection (status : Int) (payload : Value) : ShellError :=
  match firstError? payload with
  | none =>
      { cause := .service (some status) .null, message := statusMessage status, payload := payload }
  | some first =>
      let code := Value.ofOption (Value.field? first "code")
      let description := Value.ofOption (Value.field? first "description")
      { cause := .service (some status) code
        message := firstTruthy description code (statusMessage status)
        payload := payload }

end QueryShell.Connection
