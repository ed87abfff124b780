import QueryShell.Render.Console
import QueryShell.Session.Command
import QueryShell.ShellError

namespace QueryShell.Render

open Session (Registry)

namespace Console

def showValue (c : Console) (openAll : Bool) (v : Value) : Console :=
  c.print
    { lines := fun width => .ok ((View.ofValue v).lines ⟨width, openAll⟩)
      bare := v.inspect
      typeName := v.typeName }

def showMarkup (c : Console) (markup : List Char) (bare : Str) : Console :=
  c.print
    { lines := fun width => markupLines width markup
      bare := .ok (Text.quoted bare)
      typeName := "str" }

def showMessage (c : Console) (message : String) : Console :=
  c.showMarkup (escape message.toList) message

/-- The text of an error's message, which must be text. A message that counts as false is replaced
by the text of the error. -/
def errorText (e : ShellError) : Except Fault Str :=
  if e.message.truthy then
    match e.message with
    | .str s => .ok s
    | .bytes _ => .error (.other "TypeError" "cannot use a string pattern on a bytes-like object")
    | other => .error (.textExpected other.typeName)
  else e.text

def errorMark : List Char :=
  "[bold red]Error:[/bold red] ".toList

abbrev Shown := Console × Option Fault

def showError (c : Console) (e : ShellError) : Shown :=
  match errorText e with
  | .error fault => (c, some fault)
  | .ok message =>
      let c := c.showMarkup (errorMark ++ escape message.shown) message
      (if e.payload.isNull then c else c.showValue true e.payload, none)

def noErrorMessage : String :=
  "No error has been recorded in this session."

def showLastError (c : Console) : Option ShellError → Shown
  | none => (c.showMessage noErrorMessage, none)
  | some e =>
      let c := c.print
        { lines := fun width => .ok ((View.leaf e.inspect).lines ⟨width, false⟩)
          bare := e.inspect
          typeName := e.cause.name }
      c.showError e

def showCommands (c : Console) (registry : Registry α) : Console :=
  c.print
    { lines := fun width => do
        let rows ← registry.mapM fun command =>
          rowOfMarkup width ('.' :: command.name.toList) command.help.toList
        return tableLines width rows
      bare := (Value.ofStrings registry.names).inspect
      typeName := "list" }

def printMarkup (c : Console) (markup : String) : Shown :=
  match markupLines c.width markup.toList with
  | .ok lines => ((c.print? (.ok lines)).1, none)
  | .error fault => (c, some fault)

end Console

end QueryShell.Render
