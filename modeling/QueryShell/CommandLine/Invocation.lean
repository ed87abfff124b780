import QueryShell.CommandLine.Words

namespace QueryShell.CommandLine

def helpOption : String := "--help"

def verboseOption : String := "--verbose"

def generalForms : List OptionForm :=
  [⟨verboseOption, some 'v', false⟩, ⟨helpOption, none, false⟩]

def shellForms : List OptionForm :=
  [⟨"--secret", none, true⟩, ⟨"--domain", none, true⟩, ⟨"--scheme", none, true⟩,
    ⟨"--port", none, true⟩, ⟨"--timeout", none, true⟩, ⟨"--endpoint", none, true⟩,
    ⟨helpOption, none, false⟩]

def shellCommand : String := "shell"

structure Invocation where
  verbose : Bool
  database : Option String
  secret : Option String
  domain : Option String
  scheme : Option String
  port : Option Int
  timeout : Option Float
  endpoint : Option String

inductive Request where
  | help
  | shell (invocation : Invocation)

def readPort (value : String) : Except Misuse Int :=
  (Config.checkInteger (.text value)).mapError (.badValue "--port")

def readTimeout (value : String) : Except Misuse Float :=
  (Config.checkNumber (.text value)).mapError (.badValue "--timeout")

/-- Numbers are read in the order in which their options first came. -/
def readNumbers (s : Sorted) : Except Misuse (Option Int × Option Float) :=
  let port := (s.value? "--port").mapM readPort
  let timeout := (s.value? "--timeout").mapM readTimeout
  let portFirst :=
    (s.options.find? fun g => g.option == "--port" || g.option == "--timeout").map (·.option)
  if portFirst == some "--timeout" then do
    let timeout ← timeout
    return (← port, timeout)
  else do
    let port ← port
    return (port, ← timeout)

def shellRequest (verbose : Bool) (words : List String) : Except Misuse Request := do
  let s ← sort shellForms true words
  if s.has helpOption then return .help
  let (port, timeout) ← readNumbers s
  if 1 < s.arguments.length then throw (.extraArguments s.arguments.tail)
  return .shell
    { verbose := verbose
      database := s.arguments.head?
      secret := s.value? "--secret"
      domain := s.value? "--domain"
      scheme := s.value? "--scheme"
      port := port
      timeout := timeout
      endpoint := s.value? "--endpoint" }

def startsWithMark (word : String) : Bool :=
  match word.toList.head? with
  | some c => !(c.isAlphanum || 128 ≤ c.toNat)
  | none => false

/-- A word that is no command. One that looks like an option is taken for one first. -/
def unknownCommand (words : List String) (name : String) : Except Misuse Request := do
  if startsWithMark name then
    let s ← sort generalForms false words
    if s.has helpOption then return .help
  throw (.unknownCommand name (closeMatches name [shellCommand]))

def request (words : List String) : Except Misuse Request := do
  if words.isEmpty then throw .noArguments
  let s ← sort generalForms false words
  if s.has helpOption then return .help
  match s.arguments with
  | [] => throw .missingCommand
  | name :: rest =>
      if name == shellCommand then shellRequest (s.has verboseOption) rest
      else unknownCommand (name :: rest) name

end QueryShell.CommandLine
