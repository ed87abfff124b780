import QueryShell.Text.Blank
import QueryShell.Value.Dictionary

namespace QueryShell.Config

structure Assignment where
  name : String
  value : Option (List Char)

def isInLine (c : Char) : Bool :=
  Text.isBlank c && c != '\r' && c != '\n'

/-- How many characters stand before a closing quote. A backslash before a quote keeps it from
closing, unless no later quote does. A backslash that has a backslash before it keeps nothing. -/
def closing (quote : Char) (escaped : Bool) : List Char → Option Nat
  | [] => none
  | c :: cs =>
      if c == quote && !escaped then some 0
      else
        match closing quote (c == '\\' && !escaped) cs with
        | some n => some (n + 1)
        | none => if c == quote then some 0 else none

def doubleEscapes : List (Char × Char) :=
  [('\\', '\\'), ('\'', '\''), ('"', '"'), ('a', '\x07'), ('b', '\x08'), ('f', '\x0c'),
    ('n', '\n'), ('r', '\r'), ('t', '\t'), ('v', '\x0b')]

def singleEscapes : List (Char × Char) :=
  [('\\', '\\'), ('\'', '\'')]

def unescape (escapes : List (Char × Char)) : List Char → List Char
  | '\\' :: c :: cs =>
      match escapes.lookup c with
      | some d => d :: unescape escapes cs
      | none => '\\' :: unescape escapes (c :: cs)
  | c :: cs => c :: unescape escapes cs
  | [] => []

def dropComment : List Char → List Char
  | [] => []
  | c :: cs =>
      if Text.isBlank c && (cs.dropWhile Text.isBlank).head? == some '#' then []
      else c :: dropComment cs

def readQuoted (quote : Char) (escapes : List (Char × Char)) (cs : List Char) :
    Except (List Char) (List Char × List Char) :=
  match closing quote false cs.tail with
  | some n => .ok (unescape escapes (cs.tail.take n), cs.tail.drop (n + 1))
  | none => .error cs

def restOfLine (cs : List Char) : List Char :=
  cs.takeWhile (· != '\n')

/-- A value, quoted or up to the end of its line. A comment may follow the equal sign at once if
there is white space between them. -/
def readValue (cs : List Char) : Except (List Char) (List Char × List Char) :=
  let start := cs.dropWhile isInLine
  match start with
  | '\'' :: _ => readQuoted '\'' singleEscapes start
  | '"' :: _ => readQuoted '"' doubleEscapes start
  | _ =>
      let line := restOfLine cs
      .ok (Text.trim (dropComment line), cs.drop line.length)

def exportWord : List Char := "export".toList

def dropExport (cs : List Char) : List Char :=
  let rest := cs.drop exportWord.length
  if exportWord.isPrefixOf cs && (rest.head?.map isInLine).getD false then rest.dropWhile isInLine
  else cs

def isNamePart (c : Char) : Bool :=
  c != '=' && c != '#' && !Text.isBlank c

def readName (cs : List Char) : Except (List Char) (Option (List Char) × List Char) :=
  match cs with
  | '#' :: _ => .ok (none, cs)
  | '\'' :: rest =>
      let name := rest.takeWhile (· != '\'')
      if name.isEmpty || name.length = rest.length then .error cs
      else .ok (some name, rest.drop (name.length + 1))
  | _ =>
      let name := cs.takeWhile isNamePart
      if name.isEmpty then .error cs else .ok (some name, cs.drop name.length)

def readSetting (cs : List Char) : Except (List Char) (Option (List Char) × List Char) :=
  match cs with
  | '=' :: rest =>
      match readValue rest with
      | .ok (value, rest) => .ok (some value, rest)
      | .error rest => .error rest
  | _ => .ok (none, cs)

def skipComment (cs : List Char) : List Char :=
  let rest := cs.dropWhile isInLine
  if rest.head? == some '#' then rest.dropWhile (· != '\n') else cs

def readLineEnd (cs : List Char) : Except (List Char) (List Char) :=
  match cs.dropWhile isInLine with
  | [] => .ok []
  | c :: rest => if c == '\n' then .ok rest else .error cs

def readAssignment (cs : List Char) : Except (List Char) (Option Assignment × List Char) := do
  let (name, rest) ← readName (dropExport cs)
  let (value, rest) ← readSetting (rest.dropWhile isInLine)
  let rest ← readLineEnd (skipComment rest)
  return (name.map fun name => ⟨String.ofList name, value⟩, rest)

def assignmentsFrom : (fuel : Nat) → List Char → List Assignment
  | 0, _ => []
  | fuel + 1, cs =>
      match cs.dropWhile Text.isBlank with
      | [] => []
      | text =>
          match readAssignment text with
          | .ok (found, rest) => found.toList ++ assignmentsFrom fuel rest
          | .error rest => assignmentsFrom fuel (rest.dropWhile (· != '\n')).tail

def reference? (cs : List Char) : Option (String × List Char × List Char) :=
  let name := cs.takeWhile fun c => c != '\x7d' && c != ':'
  match cs.drop name.length with
  | '\x7d' :: rest => some (String.ofList name, [], rest)
  | ':' :: '-' :: rest =>
      let usual := rest.takeWhile (· != '\x7d')
      match rest.drop usual.length with
      | [] => none
      | _ :: rest => some (String.ofList name, usual, rest)
  | _ => none

abbrev Variables := List (String × Option String)

def lookUp (known : Variables) (name : String) (usual : List Char) : List Char :=
  match known.lookup name with
  | some value => (value.getD "").toList
  | none => usual

def expand (known : Variables) : (fuel : Nat) → List Char → List Char
  | 0, cs => cs
  | _, [] => []
  | fuel + 1, c :: cs =>
      if c == '$' && cs.head? == some '\x7b' then
        match reference? cs.tail with
        | some (name, usual, rest) => lookUp known name usual ++ expand known fuel rest
        | none => c :: expand known fuel cs
      else c :: expand known fuel cs

/-- The variables that assignments set, one after the other. References see the assignments before
them, and then the environment. -/
def assign (environment : List (String × String)) (known : Variables) :
    List Assignment → Variables
  | [] => known
  | a :: assignments =>
      let visible := known ++ environment.map fun p => (p.1, some p.2)
      let value := a.value.map fun cs => String.ofList (expand visible cs.length cs)
      assign environment (Value.putText known a.name value) assignments

def variablesOf (environment : List (String × String)) (text : List Char) : Variables :=
  assign environment [] (assignmentsFrom (text.length + 1) text)

end QueryShell.Config
