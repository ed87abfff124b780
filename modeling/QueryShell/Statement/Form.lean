import QueryShell.Statement.Lexer

namespace QueryShell.Statement

inductive Key where
  | name (text : List Char)
  | string (text : List Char)
  deriving DecidableEq, Repr

inductive Form where
  | name (text : List Char)
  | string (text : List Char)
  | number (text : List Char)
  | call (name : List Char) (args : List Form)
  | array (items : List Form)
  | object (pairs : List (Key × Form))
  deriving Repr

inductive Frame where
  | call (name : List Char) (args : List Form)
  | array (items : List Form)
  | object (pairs : List (Key × Form)) (key : Key)

inductive Turn where
  | form (closable : Bool)
  | after (form : Form)
  | key (pairs : List (Key × Form))
  | colon (pairs : List (Key × Form)) (key : Key)

structure Machine where
  statements : List Form
  frames : List Frame
  turn : Turn

namespace Machine

def start : Machine :=
  ⟨[], [], .form false⟩

def keywords : List (List Char) :=
  [['t', 'r', 'u', 'e'], ['f', 'a', 'l', 's', 'e'], ['n', 'u', 'l', 'l']]

def isKeyword (text : List Char) : Bool :=
  keywords.contains text

def push (form : Form) : Frame → Frame
  | .call name args => .call name (form :: args)
  | .array items => .array (form :: items)
  | .object pairs key => .object ((key, form) :: pairs) key

def close? : Frame → Mark → Option Form
  | .call name args, .closeCall => some (.call name args.reverse)
  | .array items, .closeArray => some (.array items.reverse)
  | .object pairs _, .closeObject => some (.object pairs.reverse)
  | _, _ => none

def afterComma (m : Machine) : Frame → List Frame → Machine
  | .object pairs _, frames => { m with frames := frames, turn := .key pairs }
  | frame, frames => { m with frames := frame :: frames, turn := .form true }

def openMark (m : Machine) (closable : Bool) : Mark → Option Machine
  | .openArray => some { m with frames := .array [] :: m.frames, turn := .form true }
  | .openObject => some { m with turn := .key [] }
  | mark =>
      match closable, m.frames with
      | true, frame :: frames =>
          (close? frame mark).map fun form => { m with frames := frames, turn := .after form }
      | _, _ => none

def markAfter (m : Machine) (form : Form) (mark : Mark) : Option Machine :=
  match mark, form, m.frames with
  | .openCall, .name text, frames =>
      if isKeyword text then none
      else some { m with frames := .call text [] :: frames, turn := .form true }
  | .semicolon, _, [] =>
      some { m with statements := form :: m.statements, turn := .form true }
  | .comma, _, frame :: frames => some (m.afterComma (push form frame) frames)
  | mark, _, frame :: frames =>
      (close? (push form frame) mark).map fun whole =>
        { m with frames := frames, turn := .after whole }
  | _, _, _ => none

def step (m : Machine) (t : Token) : Option Machine :=
  match m.turn, t with
  | .form _, .name text => some { m with turn := .after (.name text) }
  | .form _, .string text => some { m with turn := .after (.string text) }
  | .form _, .number text => some { m with turn := .after (.number text) }
  | .form closable, .mark mark => m.openMark closable mark
  | .after form, .mark mark => m.markAfter form mark
  | .key pairs, .name text => some { m with turn := .colon pairs (.name text) }
  | .key pairs, .string text => some { m with turn := .colon pairs (.string text) }
  | .key pairs, .mark .closeObject =>
      some { m with turn := .after (.object pairs.reverse) }
  | .colon pairs key, .mark .colon =>
      some { m with frames := .object pairs key :: m.frames, turn := .form false }
  | _, _ => none

def finish (m : Machine) : Option (List Form) :=
  match m.frames, m.turn with
  | [], .after form => some (form :: m.statements).reverse
  | [], .form true => some m.statements.reverse
  | _, _ => none

end Machine

inductive Outline where
  | complete (forms : List Form)
  | unfinished
  | unexpectedToken (offset : Nat) (token : Token)
  | unexpectedChar (offset : Nat) (char : Char)

def outlineFrom (m : Machine) : List (Nat × Token) → Stop → Outline
  | [], .stuck offset char => .unexpectedChar offset char
  | [], .finished =>
      match m.finish with
      | some forms => .complete forms
      | none => .unfinished
  | (offset, t) :: tokens, stop =>
      match m.step t with
      | some next => outlineFrom next tokens stop
      | none => .unexpectedToken offset t

def outline (cs : List Char) : Outline :=
  let found := scan cs
  outlineFrom .start found.tokens found.stop

end QueryShell.Statement
