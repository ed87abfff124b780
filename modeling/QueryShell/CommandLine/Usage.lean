import QueryShell.CommandLine.Similarity
import QueryShell.Config.Field
import QueryShell.Text.Quoted

namespace QueryShell.CommandLine

inductive Misuse where
  | noArguments
  | missingCommand
  | unknownCommand (name : String) (close : List String)
  | unknownOption (name : String) (close : List String)
  | valueMissing (option : String)
  | valueUnwanted (option : String)
  | badValue (option : String) (problem : Config.Problem)
  | extraArguments (arguments : List String)
  deriving Repr

namespace Misuse

def kind : Misuse → String
  | .noArguments => "NoArgsIsHelpError"
  | .missingCommand | .unknownCommand .. | .extraArguments _ => "UsageError"
  | .unknownOption .. => "NoSuchOption"
  | .valueMissing _ | .valueUnwanted _ => "BadOptionUsage"
  | .badValue .. => "BadParameter"

def meant (close : List String) : String :=
  match close with
  | [] => ""
  | [one] => " Did you mean " ++ one ++ "?"
  | several =>
      let sorted := several.mergeSort fun a b => decide (a ≤ b)
      " (Possible options: " ++ ", ".intercalate sorted ++ ")"

def message? : Misuse → Option String
  | .noArguments => none
  | .missingCommand => some "Missing command."
  | .unknownCommand name close =>
      some ("No such command " ++ Text.quoted name ++ "." ++
        (if close.isEmpty then ""
        else
          " Did you mean " ++
            ", ".intercalate (close.map fun (name : String) => Text.quoted name) ++ "?"))
  | .unknownOption name close => some ("No such option: " ++ name ++ meant close)
  | .valueMissing option => some ("Option " ++ Text.quoted option ++ " requires an argument.")
  | .valueUnwanted option => some ("Option " ++ Text.quoted option ++ " does not take a value.")
  | .badValue option problem =>
      some ("Invalid value for '" ++ option ++ "': " ++ problem.message)
  | .extraArguments arguments =>
      some ("Got unexpected extra argument(s) (" ++ " ".intercalate arguments ++ ")")

end Misuse

end QueryShell.CommandLine
