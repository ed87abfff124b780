import QueryShell.Config.Endpoint
import QueryShell.Config.Field
import QueryShell.Config.VariableFile
import QueryShell.Yaml.Build

namespace QueryShell.Config

structure Sources where
  home : String
  configuration : Option (List Char)
  variableFile : Option (List Char)
  environment : List (String × String)
  /-- Settings that are null are not given. -/
  overrides : List (String × Value)
  endpoint : String

def Sources.path (s : Sources) : String :=
  s.home ++ "/config.yaml"

inductive Unresolved where
  | refused (refusal : Refusal)
  | invalid (findings : List Finding)

def missingFile (endpoint path : String) : String :=
  "Endpoint '" ++ endpoint ++ "' requested but no config file exists at " ++ path ++ "."

def unreadableFile (path : String) : String :=
  "Could not parse config file " ++ path

def missingSecret : String :=
  "No secret provided. Pass --secret, set FAUNA_SECRET, or configure an endpoint."

def invalidOptions : String :=
  "Invalid connection options"

def configured (s : Sources) : Except Refusal Entry :=
  match s.configuration with
  | none => if s.endpoint == "" then .ok ⟨[], false⟩ else refuse (missingFile s.endpoint s.path)
  | some text =>
      match Yaml.read text with
      | .ok document => endpointEntry s.path document s.endpoint
      | .error .malformed => refuse (unreadableFile s.path)
      | .error (.fault f) => .error (.fault f)

def settingsOfVariables (known : Variables) : Settings :=
  Field.all.filterMap fun field =>
    match (known.lookup field.variableName).join with
    | some text => if text == "" then none else some (field.name, .text text)
    | none => none

def settingsOfOverrides (overrides : List (String × Value)) : Settings :=
  overrides.filterMap fun p => if p.2.isNull then none else some (p.1, .ofValue p.2)

def environmentVariables (environment : List (String × String)) : Variables :=
  environment.map fun p => (p.1, some p.2)

def merged (s : Sources) (settings : Settings) : Settings :=
  let file := s.variableFile.map fun text =>
    variablesOf s.environment (Yaml.unifyBreaks text)
  let sources :=
    [settingsOfVariables (file.getD []),
      settingsOfVariables (environmentVariables s.environment),
      settingsOfOverrides s.overrides]
  sources.flatten.foldl (fun settings p => Value.putText settings p.1 p.2) settings

/-- The options that merged settings make up. A secret is asked for first, and then that all keys
are text. -/
def optionsOfSettings (settings : Settings) (hasOtherKeys : Bool) :
    Except Unresolved Connection.Options :=
  if !((settings.lookup Field.secret.name).getD .null).isGiven then
    .error (.refused (.failed (.configuration missingSecret)))
  else if hasOtherKeys then
    .error (.refused (.fault (.other "TypeError" "keywords must be strings")))
  else (optionsOf fun field => settings.lookup field.name).mapError .invalid

def resolve (s : Sources) : Except Unresolved Connection.Options := do
  let entry ← (configured s).mapError .refused
  optionsOfSettings (merged s entry.settings) entry.hasOtherKeys

def Unresolved.toFailure : Unresolved → Failure
  | .refused (.failed e) => .reported e
  | .refused (.fault f) => .fault f
  | .invalid _ => .reported (.configuration invalidOptions)

end QueryShell.Config
