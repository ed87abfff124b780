namespace QueryShell.Statement

inductive Mark where
  | openCall
  | closeCall
  | openArray
  | closeArray
  | openObject
  | closeObject
  | comma
  | colon
  | semicolon
  deriving DecidableEq, Repr

def Mark.char : Mark → Char
  | .openCall => '('
  | .closeCall => ')'
  | .openArray => '['
  | .closeArray => ']'
  | .openObject => '{'
  | .closeObject => '}'
  | .comma => ','
  | .colon => ':'
  | .semicolon => ';'

def Mark.ofChar? : Char → Option Mark
  | '(' => some .openCall
  | ')' => some .closeCall
  | '[' => some .openArray
  | ']' => some .closeArray
  | '{' => some .openObject
  | '}' => some .closeObject
  | ',' => some .comma
  | ':' => some .colon
  | ';' => some .semicolon
  | _ => none

inductive Token where
  | name (text : List Char)
  | number (text : List Char)
  | string (text : List Char)
  | mark (m : Mark)
  deriving DecidableEq, Repr

def Token.text : Token → List Char
  | .name text | .number text | .string text => text
  | .mark m => [m.char]

end QueryShell.Statement
