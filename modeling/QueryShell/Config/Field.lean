import QueryShell.Config.Setting
import QueryShell.Config.WrittenNumber
import QueryShell.Connection.Options
import QueryShell.Text.Encoding

namespace QueryShell.Config

inductive Field where
  | secret
  | domain
  | scheme
  | port
  | timeout
  deriving DecidableEq, Repr

namespace Field

def all : List Field := [.secret, .domain, .scheme, .port, .timeout]

def name : Field → String
  | .secret => "secret"
  | .domain => "domain"
  | .scheme => "scheme"
  | .port => "port"
  | .timeout => "timeout"

def variableName : Field → String
  | .secret => "FAUNA_SECRET"
  | .domain => "FAUNA_DOMAIN"
  | .scheme => "FAUNA_SCHEME"
  | .port => "FAUNA_PORT"
  | .timeout => "FAUNA_TIMEOUT"

end Field

inductive Problem where
  | missing
  | notText
  | notUnicode
  | empty
  | unknownScheme
  | notInteger
  | unreadableInteger
  | oversizedInteger
  | fractional
  | notFinite
  | tooLow
  | tooHigh
  | notNumber
  | unreadableNumber
  | notPositive
  deriving DecidableEq, Repr

namespace Problem

def code : Problem → String
  | .missing => "missing"
  | .notText => "string_type"
  | .notUnicode => "string_unicode"
  | .empty => "string_too_short"
  | .unknownScheme => "literal_error"
  | .notInteger => "int_type"
  | .unreadableInteger => "int_parsing"
  | .oversizedInteger => "int_parsing_size"
  | .fractional => "int_from_float"
  | .notFinite => "finite_number"
  | .tooLow => "greater_than_equal"
  | .tooHigh => "less_than_equal"
  | .notNumber => "float_type"
  | .unreadableNumber => "float_parsing"
  | .notPositive => "greater_than"

def message : Problem → String
  | .missing => "Field required"
  | .notText => "Input should be a valid string"
  | .notUnicode =>
      "Input should be a valid string, unable to parse raw data as a unicode string"
  | .empty => "String should have at least 1 character"
  | .unknownScheme => "Input should be 'http' or 'https'"
  | .notInteger => "Input should be a valid integer"
  | .unreadableInteger =>
      "Input should be a valid integer, unable to parse string as an integer"
  | .oversizedInteger => "Unable to parse input string as an integer, exceeded maximum size"
  | .fractional => "Input should be a valid integer, got a number with a fractional part"
  | .notFinite => "Input should be a finite number"
  | .tooLow => "Input should be greater than or equal to 1"
  | .tooHigh => "Input should be less than or equal to 65535"
  | .notNumber => "Input should be a valid number"
  | .unreadableNumber => "Input should be a valid number, unable to parse string as a number"
  | .notPositive => "Input should be greater than 0"

end Problem

def textOf? : Setting → Option (Option (List Char))
  | .text s => some (some s.toList)
  | .bytes data => some (Text.decodeStrict? .utf8 data)
  | _ => none

def checkText (setting : Setting) : Except Problem String :=
  match setting with
  | .brokenText => .error .notUnicode
  | other =>
      match textOf? other with
      | some (some cs) => .ok (String.ofList cs)
      | some none => .error .notUnicode
      | none => .error .notText

def checkSecret (setting : Setting) : Except Problem String := do
  let secret ← checkText setting
  if secret == "" then throw .empty else return secret

def schemes : List String := ["http", "https"]

def checkScheme : Setting → Except Problem String
  | .text s => if schemes.contains s then .ok s else .error .unknownScheme
  | _ => .error .unknownScheme

def integerOfText (cs : List Char) : Except Problem Int :=
  match writtenInt cs with
  | .ok n => .ok n
  | .error .malformed => .error .unreadableInteger
  | .error .oversized => .error .oversizedInteger

/-- A floating-point number stands for an integer below this size only. -/
def wordBound : Nat := 9223372036854775808

def integerOfFloat (x : Float) : Except Problem Int :=
  if !Decimal.isFinite x then .error .notFinite
  else
    match Decimal.toInt? x with
    | none => .error .fractional
    | some n => if n.natAbs < wordBound then .ok n else .error .oversizedInteger

def checkInteger (setting : Setting) : Except Problem Int :=
  match setting with
  | .int n => .ok n
  | .bool b => .ok (if b then 1 else 0)
  | .float x => integerOfFloat x
  | .brokenText => .error .notUnicode
  | other =>
      match textOf? other with
      | some (some cs) => integerOfText cs
      | some none => .error .unreadableInteger
      | none => .error .notInteger

def checkPort (setting : Setting) : Except Problem Nat := do
  let n ← checkInteger setting
  if 65535 < n then throw .tooHigh
  else if n < 1 then throw .tooLow
  else return n.toNat

def checkNumber (setting : Setting) : Except Problem Float :=
  match setting with
  | .float x => .ok x
  | .bool b => .ok (if b then 1.0 else 0.0)
  | .int n =>
      match Decimal.ofInt? n with
      | some x => .ok x
      | none => .error .notNumber
  | .brokenText => .error .notUnicode
  | other =>
      match textOf? other with
      | some (some cs) =>
          match writtenFloat? cs with
          | some x => .ok x
          | none => .error .unreadableNumber
      | some none => .error .unreadableNumber
      | none => .error .notNumber

def checkTimeout (setting : Setting) : Except Problem (Option Float) :=
  match setting with
  | .null => .ok none
  | other => do
      let x ← checkNumber other
      if 0.0 < x then return some x else throw .notPositive

structure Finding where
  field : Field
  problem : Problem
  deriving DecidableEq, Repr

def findings (field : Field) (result : Except Problem α) : List Finding :=
  match result with
  | .ok _ => []
  | .error problem => [⟨field, problem⟩]

def orDefault (check : Setting → Except Problem α) (usual : Except Problem α)
    (setting : Option Setting) : Except Problem α :=
  match setting with
  | some found => check found
  | none => usual

def optionsOf (setting : Field → Option Setting) : Except (List Finding) Connection.Options :=
  let secret := orDefault checkSecret (.error .missing) (setting .secret)
  let domain := orDefault checkText (.ok Connection.defaultDomain) (setting .domain)
  let scheme := orDefault checkScheme (.ok Connection.defaultScheme) (setting .scheme)
  let port := orDefault checkPort (.ok Connection.defaultPort) (setting .port)
  let timeout := orDefault checkTimeout (.ok none) (setting .timeout)
  match secret, domain, scheme, port, timeout with
  | .ok secret, .ok domain, .ok scheme, .ok port, .ok timeout =>
      .ok ⟨secret, domain, scheme, port, timeout⟩
  | _, _, _, _, _ =>
      .error (findings .secret secret ++ findings .domain domain ++ findings .scheme scheme ++
        findings .port port ++ findings .timeout timeout)

end QueryShell.Config
