import QueryShell.Statement.Node
import QueryShell.Statement.Place
import QueryShell.ShellError

namespace QueryShell.Statement

inductive Reading where
  | parsed (nodes : List Node)
  | incomplete
  | malformed (error : ShellError)
  | escaped (fault : Fault)

def isBlank (text : List Char) : Bool :=
  (Text.lines text).all fun line =>
    match Text.trim line with
    | [] => true
    | '/' :: '/' :: _ => true
    | _ => false

def malformed (message : String) (place : Option Place) : ShellError :=
  { cause := .wording (place.map fun p => p.line) (place.map fun p => p.column)
    message := .str message }

def emptyStatement : ShellError :=
  malformed "Empty statement." none

def errorAt (what : String) (found text : List Char) (offset : Nat) : ShellError :=
  let place := placeOf text offset
  malformed
    (what ++ " '" ++ String.ofList found ++ "' at line " ++ toString place.line ++ ", column " ++
      toString place.column ++ ".\n" ++ String.ofList (excerpt text offset))
    place

def LiteralFault.toReading : LiteralFault → Reading
  | .string token fault =>
      .malformed (malformed
        ("Invalid string literal " ++ String.ofList token ++ ": " ++ fault.message) none)
  | .integer digits => .escaped (.numberToken digits)

variable [CharacterNames]

def readForms (forms : List Form) : Reading :=
  match formsToNodes forms with
  | .ok nodes => .parsed nodes
  | .error fault => fault.toReading

def classify (text : List Char) (openString : Char → Reading) : Outline → Reading
  | .complete forms => readForms forms
  | .unfinished => .incomplete
  | .unexpectedToken offset t => .malformed (errorAt "Unexpected" t.text text offset)
  | .unexpectedChar offset c =>
      if isQuote c then openString c
      else .malformed (errorAt "Unexpected character" [c] text offset)

/-- A string that is still open is closed for a trial: the text is incomplete unless the trial
shows that it is malformed. -/
def trial (text : List Char) (quote : Char) : Reading :=
  let closed := text ++ [quote]
  match classify closed (fun _ => .incomplete) (outline closed) with
  | .parsed _ => .incomplete
  | other => other

def read (text : List Char) : Reading :=
  if isBlank text then .malformed emptyStatement
  else classify text (trial text) (outline text)

end QueryShell.Statement
