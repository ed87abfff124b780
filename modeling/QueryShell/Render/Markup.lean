import QueryShell.Fault
import QueryShell.Text.Emoji

namespace QueryShell.Render

def isTagStart (c : Char) : Bool :=
  ('a' ≤ c && c ≤ 'z') || c == '#' || c == '/' || c == '@'

def tagAt? (cs : List Char) : Option (List Char) :=
  match cs with
  | [] => none
  | c :: _ =>
      if isTagStart c then
        let inside := cs.takeWhile fun d => d != ']' && d != '['
        if cs[inside.length]? == some ']' then some inside else none
      else none

def backslashes (n : Nat) : List Char :=
  List.replicate n '\\'

def escapeTags : (pending : Nat) → List Char → List Char
  | pending, [] => backslashes pending
  | pending, c :: cs =>
      if c = '\\' then escapeTags (pending + 1) cs
      else if c = '[' && (tagAt? cs).isSome then
        backslashes (2 * pending + 1) ++ c :: escapeTags 0 cs
      else backslashes pending ++ c :: escapeTags 0 cs

def escape (cs : List Char) : List Char :=
  let escaped := escapeTags 0 cs
  match escaped.reverse with
  | '\\' :: '\\' :: _ => escaped
  | '\\' :: _ => escaped ++ ['\\']
  | _ => escaped

inductive Piece where
  | text (text : List Char)
  | tag (position : Nat) (inside : List Char)

def textPiece (reversed : List Char) : List Piece :=
  if reversed.isEmpty then [] else [.text reversed.reverse]

def pieces : (fuel position : Nat) → (read : List Char) → List Char → List Piece
  | 0, _, read, _ => textPiece read
  | _, _, read, [] => textPiece read
  | fuel + 1, position, read, c :: cs =>
      let slashes := (c :: cs).takeWhile (· == '\\')
      let after := (c :: cs).drop slashes.length
      match after with
      | '[' :: inner =>
          match tagAt? inner with
          | some inside =>
              let half := slashes.length / 2
              let literal := if half == 0 then [] else [.text (backslashes half)]
              let rest := inner.drop (inside.length + 1)
              let next := position + slashes.length + inside.length + 2
              if slashes.length % 2 == 1 then
                textPiece read ++ literal ++ .text ('[' :: (inside ++ [']'])) ::
                  pieces fuel next [] rest
              else
                textPiece read ++ literal ++ .tag (position + 2 * half) inside ::
                  pieces fuel next [] rest
          | none => pieces fuel (position + slashes.length + 1) ('[' :: (slashes ++ read)) inner
      | _ =>
          if slashes.isEmpty then pieces fuel (position + 1) (c :: read) cs
          else pieces fuel (position + slashes.length) (slashes ++ read) after

/-- A backslash before a bracket that starts no tag is dropped. -/
def unescapeBrackets : List Char → List Char
  | '\\' :: '[' :: cs => '[' :: unescapeBrackets cs
  | c :: cs => c :: unescapeBrackets cs
  | [] => []

def styleAliases : List (String × String) :=
  [("b", "bold"), ("d", "dim"), ("i", "italic"), ("u", "underline"), ("uu", "underline2"),
    ("r", "reverse"), ("c", "conceal"), ("s", "strike"), ("o", "overline")]

def styleName (cs : List Char) : String :=
  let name := String.ofList (Text.lower (Text.trim cs))
  (styleAliases.lookup name).getD name

/-- The name of a tag is what stands before an equals sign. -/
def tagName (inside : List Char) : List Char :=
  inside.takeWhile (· != '=')

def markupFault (message : String) : Fault :=
  .other "MarkupError" message

def closeTag (openStyles : List String) (position : Nat) (inside : List Char) :
    Except Fault (List String) :=
  let name := Text.trim (tagName inside).tail
  if name.isEmpty then
    match openStyles with
    | _ :: outer => .ok outer
    | [] => .error (markupFault
        ("closing tag '[/]' at position " ++ toString position ++ " has nothing to close"))
  else
    let style := styleName name
    if openStyles.contains style then .ok (openStyles.erase style)
    else .error (markupFault
      ("closing tag '[" ++ String.ofList inside ++ "]' at position " ++ toString position ++
        " doesn't match any open tag"))

def piecesText (openStyles : List String) : List Piece → Except Fault (List Char)
  | [] => .ok []
  | .text cs :: rest => do
      return Text.withEmoji (unescapeBrackets cs) ++ (← piecesText openStyles rest)
  | .tag position inside :: rest =>
      match inside with
      | '/' :: _ => do piecesText (← closeTag openStyles position inside) rest
      | _ => piecesText (styleName (tagName inside) :: openStyles) rest

def markupText (cs : List Char) : Except Fault (List Char) :=
  piecesText [] (pieces cs.length 0 [] cs)

end QueryShell.Render
