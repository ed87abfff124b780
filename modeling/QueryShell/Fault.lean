namespace QueryShell

inductive Mismatch where
  | tooMany (least most given : Nat)
  | missing (names : List String)
  deriving DecidableEq, Repr

inductive Base64Fault where
  | oneOver (count : Nat)
  | padding
  deriving DecidableEq, Repr

inductive Fault where
  | mismatch (function : String) (how : Mismatch)
  | unhashable (type : String)
  | noAttribute (type part : String)
  | notIterable (type : String)
  | notCallable (type : String)
  | bytesExpected (type : String)
  | notSubscriptable (type : String)
  | textExpected (type : String)
  | entryNotSequence (index : Nat)
  | entryNotPair (index length : Nat)
  | notEncodable (type : String)
  | keyNotEncodable (type : String)
  | notFinite
  | notEvaluable (type : String)
  | missingKey (shown : String)
  | notAscii
  | notBase64Source (type : String)
  | base64 (reason : Base64Fault)
  | tooManyDigits (count : Nat)
  | integerTooLong
  | numberToken (count : Nat)
  | cursorPastEnd (cursor length : Nat)
  | other (kind message : String)
  deriving DecidableEq, Repr

def plural (count : Nat) : String :=
  if count == 1 then "" else "s"

def enumerated (names : List String) : String :=
  match names.map fun name => "'" ++ name ++ "'" with
  | [] => ""
  | [a] => a
  | [a, b] => a ++ " and " ++ b
  | several => ", ".intercalate several.dropLast ++ ", and " ++ several.getLastD ""

def Mismatch.message : Mismatch → String
  | .tooMany least most given =>
      let range :=
        if least == most then toString most ++ " positional argument" ++ plural most
        else "from " ++ toString least ++ " to " ++ toString most ++ " positional arguments"
      "takes " ++ range ++ " but " ++ toString given ++
        (if given == 1 then " was" else " were") ++ " given"
  | .missing names =>
      "missing " ++ toString names.length ++ " required positional argument" ++
        plural names.length ++ ": " ++ enumerated names

def Base64Fault.message : Base64Fault → String
  | .oneOver count =>
      "Invalid base64-encoded string: number of data characters (" ++ toString count ++
        ") cannot be 1 more than a multiple of 4"
  | .padding => "Incorrect padding"

def digitLimitMessage (found : String) : String :=
  "Exceeds the limit (4300 digits) for integer string conversion" ++ found ++
    "; use sys.set_int_max_str_digits() to increase the limit"

def countedDigits (count : Nat) : String :=
  ": value has " ++ toString count ++ " digits"

def Fault.kind : Fault → String
  | .noAttribute .. => "AttributeError"
  | .entryNotPair .. | .notFinite | .notAscii | .tooManyDigits _ | .integerTooLong => "ValueError"
  | .missingKey _ => "KeyError"
  | .base64 _ => "Error"
  | .numberToken _ => "VisitError"
  | .cursorPastEnd .. => "AssertionError"
  | .other kind _ => kind
  | _ => "TypeError"

def Fault.message : Fault → String
  | .mismatch function how => function ++ "() " ++ how.message
  | .unhashable type => "unhashable type: '" ++ type ++ "'"
  | .noAttribute type part =>
      "'" ++ type ++ "' object has no attribute '" ++ part ++ "'"
  | .notIterable type => "'" ++ type ++ "' object is not iterable"
  | .notCallable type => "'" ++ type ++ "' object is not callable"
  | .bytesExpected type => "a bytes-like object is required, not '" ++ type ++ "'"
  | .notSubscriptable type => "'" ++ type ++ "' object is not subscriptable"
  | .textExpected type => "expected string or bytes-like object, got '" ++ type ++ "'"
  | .entryNotSequence index =>
      "cannot convert dictionary update sequence element #" ++ toString index ++ " to a sequence"
  | .entryNotPair index length =>
      "dictionary update sequence element #" ++ toString index ++ " has length " ++
        toString length ++ "; 2 is required"
  | .notEncodable type => "Cannot encode value of type " ++ type ++ " in a query."
  | .keyNotEncodable type => "keys must be str, int, float, bool or None, not " ++ type
  | .notFinite => "Out of range float values are not JSON compliant"
  | .notEvaluable type => "Cannot evaluate object of type: " ++ type
  | .missingKey shown => shown
  | .notAscii => "string argument should contain only ASCII characters"
  | .notBase64Source type =>
      "argument should be a bytes-like object or ASCII string, not '" ++ type ++ "'"
  | .base64 reason => reason.message
  | .tooManyDigits count => digitLimitMessage (countedDigits count)
  | .integerTooLong => digitLimitMessage ""
  | .numberToken count =>
      "Error trying to process rule \"number\":\n\n" ++ digitLimitMessage (countedDigits count)
  | .cursorPastEnd cursor length =>
      "cursor_position=" ++ toString cursor ++ ", len_text=" ++ toString length
  | .other _ message => message

def Fault.summary (fault : Fault) : String :=
  fault.kind ++ ": " ++ fault.message

def Fault.isTypeFault (fault : Fault) : Bool :=
  fault.kind == "TypeError"

end QueryShell
