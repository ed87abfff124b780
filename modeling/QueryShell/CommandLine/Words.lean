import QueryShell.CommandLine.Usage

namespace QueryShell.CommandLine

structure OptionForm where
  long : String
  short : Option Char
  takesValue : Bool

structure Given where
  option : String
  value : String
  deriving DecidableEq, Repr

structure Sorted where
  options : List Given
  arguments : List String
  deriving DecidableEq, Repr

def Sorted.withOption (s : Sorted) (option value : String) : Sorted :=
  { s with options := ⟨option, value⟩ :: s.options }

def Sorted.withArgument (s : Sorted) (argument : String) : Sorted :=
  { s with arguments := argument :: s.arguments }

def cutValue (word : String) : String × Option String :=
  let cs := word.toList
  let name := cs.takeWhile (· != '=')
  match cs.drop name.length with
  | [] => (word, none)
  | _ :: value => (String.ofList name, some (String.ofList value))

def findLong (forms : List OptionForm) (name : String) : Option OptionForm :=
  forms.find? (·.long == name)

def shortOptions (forms : List OptionForm) : List Char → Except Misuse (List Given)
  | [] => .ok []
  | c :: cs =>
      match forms.find? (·.short == some c) with
      | some form => return ⟨form.long, ""⟩ :: (← shortOptions forms cs)
      | none => .error (.unknownOption (String.ofList ['-', c]) [])

def unknownLong (forms : List OptionForm) (name : String) : Misuse :=
  .unknownOption name (closeMatches name (forms.map (·.long)))

def isOption (word : String) : Bool :=
  word.toList.head? == some '-' && 1 < word.length

def isLong (word : String) : Bool :=
  "--".isPrefixOf word

/-- Sorts words. Without `mixed`, the first argument ends the options. -/
def sort (forms : List OptionForm) (mixed : Bool) : List String → Except Misuse Sorted
  | [] => .ok ⟨[], []⟩
  | word :: words =>
      if word == "--" then .ok ⟨[], words⟩
      else if isOption word then
        let (name, value) := cutValue word
        match findLong forms name, value with
        | some form, some value =>
            if form.takesValue then return (← sort forms mixed words).withOption name value
            else .error (.valueUnwanted name)
        | some form, none =>
            if form.takesValue then
              match words with
              | [] => .error (.valueMissing name)
              | value :: words => return (← sort forms mixed words).withOption name value
            else return (← sort forms mixed words).withOption name ""
        | none, _ =>
            if isLong word then .error (unknownLong forms name)
            else do
              let found ← shortOptions forms word.toList.tail
              let sorted ← sort forms mixed words
              return { sorted with options := found ++ sorted.options }
      else if mixed then return (← sort forms mixed words).withArgument word
      else .ok ⟨[], word :: words⟩

def Sorted.value? (s : Sorted) (option : String) : Option String :=
  (s.options.reverse.find? (·.option == option)).map (·.value)

def Sorted.has (s : Sorted) (option : String) : Bool :=
  (s.value? option).isSome

end QueryShell.CommandLine
