namespace QueryShell.Session

structure Command (α : Type) where
  name : String
  help : String
  action : α
  deriving DecidableEq, Repr

def allowedBuiltins : List String :=
  ["break", "exit", "help"]

def deniedBuiltins : List String :=
  ["load", "editor", "save", "clear"]

abbrev Registry (α : Type) := List (Command α)

namespace Registry

def insert (command : Command α) : Registry α → Registry α
  | [] => [command]
  | c :: cs =>
      if command.name = c.name then command :: cs
      else if command.name < c.name then command :: c :: cs
      else c :: insert command cs

def insertAll (registry : Registry α) (commands : List (Command α)) : Registry α :=
  commands.foldl (fun acc c => insert c acc) registry

def admits (allowed denied : List String) (command : Command α) : Bool :=
  allowed.contains command.name && !denied.contains command.name

def build (builtins custom : List (Command α)) (allowed denied : List String) : Registry α :=
  insertAll (insertAll [] (builtins.filter (admits allowed denied))) custom

def get? (registry : Registry α) (name : String) : Option (Command α) :=
  registry.find? fun c => c.name == name

def contains (registry : Registry α) (name : String) : Bool :=
  registry.any fun c => c.name == name

def names (registry : Registry α) : List String :=
  registry.map (·.name)

end Registry

inductive Action where
  | abort
  | exit
  | help
  | clear
  | lastError
  deriving DecidableEq, Repr

def shellCommands : Registry Action :=
  .build
    [⟨"break", "Abort the statement being typed", .abort⟩,
      ⟨"exit", "Exit the shell", .exit⟩,
      ⟨"help", "Print this help message", .help⟩]
    [⟨"clear", "Clear the repl", .clear⟩,
      ⟨"last_error", "Display the last error", .lastError⟩]
    allowedBuiltins deniedBuiltins

end QueryShell.Session
