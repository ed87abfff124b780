import QueryShell.Fault
import QueryShell.Statement.Lexer
import QueryShell.Text.Blank

namespace QueryShell.Session

structure Completion where
  text : String
  replaces : Nat
  note : String
  deriving DecidableEq, Repr

def scopeNote : String := "FQL"

def typedCommand? (before : List Char) : Option (List Char) :=
  match Text.trimLeft before with
  | '.' :: word => if word.contains ' ' then none else some word
  | _ => none

def nameAtEnd (before : List Char) : List Char :=
  (before.reverse.takeWhile Statement.isNamePart).reverse.dropWhile
    fun c => !Statement.isNameStart c

/-- The name that is being typed. One line feed may follow it. -/
def typedName? (before : List Char) : Option (List Char) :=
  let found :=
    match nameAtEnd before, before.getLast? with
    | [], some '\n' => nameAtEnd before.dropLast
    | name, _ => name
  if found.isEmpty then none else some found

def extending (word : List Char) (names : List String) : List String :=
  names.filter fun name => word.isPrefixOf name.toList

def sortedNames (names : List String) : List String :=
  names.mergeSort (· ≤ ·)

def completions (commands bindings : List String) (before : List Char) : List Completion :=
  match typedCommand? before with
  | some word => (extending word commands).map fun name => ⟨name, word.length, ""⟩
  | none =>
      match typedName? before with
      | some word =>
          (extending word (sortedNames bindings)).map fun name => ⟨name, word.length, scopeNote⟩
      | none => []

def textBefore (text : List Char) (cursor : Nat) : Except Fault (List Char) :=
  if cursor ≤ text.length then .ok (text.take cursor)
  else .error (.cursorPastEnd cursor text.length)

end QueryShell.Session
