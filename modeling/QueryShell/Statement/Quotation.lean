import QueryShell.CodePoint
import QueryShell.Text.Digit

namespace QueryShell.Statement

inductive QuotationFault where
  | nul
  | escape (first last : Nat) (reason : String)
  deriving DecidableEq, Repr

/-- A line break is written as its escape. -/
def escapeLineBreak : Char → List Char
  | '\r' => ['\\', 'r']
  | '\n' => ['\\', 'n']
  | c => [c]

/-- The length of a text once every character beyond ASCII is written by number, `\U` and eight
digits, and so is a backslash that stands before one of them, `\u` and four digits. -/
def spelledLength : List Char → Nat
  | [] => 0
  | '\\' :: c :: cs =>
      (if c.toNat < 0x80 then 2 else 16) + spelledLength cs
  | c :: cs => (if c.toNat < 0x80 then 1 else 10) + spelledLength cs

def namedEscape? : Char → Option Char
  | '\\' => some '\\'
  | '\'' => some '\''
  | '"' => some '"'
  | 'a' => some '\x07'
  | 'b' => some '\x08'
  | 'f' => some '\x0c'
  | 'n' => some '\n'
  | 'r' => some '\r'
  | 't' => some '\t'
  | 'v' => some '\x0b'
  | _ => none

def isOctal (c : Char) : Bool :=
  '0' ≤ c && c ≤ '7'

def hexEscape? : Char → Option (Nat × String)
  | 'x' => some (2, "truncated \\xXX escape")
  | 'u' => some (4, "truncated \\uXXXX escape")
  | 'U' => some (8, "truncated \\UXXXXXXXX escape")
  | _ => none

inductive Escape where
  | reads (text : Str) (count : Nat)
  | fails (count : Nat) (reason : String)

def hexEscape (digits : Nat) (truncated : String) (cs : List Char) : Escape :=
  let found := (cs.take digits).takeWhile fun c => (Text.hexValue? c).isSome
  if found.length < digits then .fails (1 + found.length) truncated
  else
    let code := Text.spelled 16 (found.filterMap Text.hexValue?)
    if code ≤ 0x10ffff then .reads [.ofNat code] (1 + digits)
    else .fails (1 + digits) "illegal Unicode character"

class CharacterNames where
  named? : List Char → Option Char
  plain : ∀ name c, named? name = some c →
    ∀ d ∈ name, d.isAlphanum = true ∨ d = ' ' ∨ d = '-'

instance (priority := low) CharacterNames.nameless : CharacterNames :=
  ⟨fun _ => none, fun _ _ h => by simp at h⟩

variable [CharacterNames]

def nameEscape : List Char → Escape
  | '{' :: cs =>
      let name := cs.takeWhile (· != '}')
      if name.length == cs.length then .fails (2 + name.length) "malformed \\N character escape"
      else if name.isEmpty then .fails 2 "malformed \\N character escape"
      else
        match CharacterNames.named? name with
        | some c => .reads [.char c] (3 + name.length)
        | none => .fails (3 + name.length) "unknown Unicode character name"
  | _ => .fails 1 "malformed \\N character escape"

def octalEscape (cs : List Char) : Escape :=
  let digits := (cs.take 3).takeWhile isOctal
  .reads [.ofNat (Text.spelled 8 (digits.filterMap Text.hexValue?))] digits.length

def escapeAt : List Char → Escape
  | [] => .reads [.char '\\'] 0
  | c :: cs =>
      match namedEscape? c with
      | some d => .reads [.char d] 1
      | none =>
          match hexEscape? c with
          | some (digits, truncated) => hexEscape digits truncated cs
          | none =>
              if c = 'N' then nameEscape cs
              else if isOctal c then octalEscape (c :: cs)
              else .reads [.char '\\', .char c] 1

def unescapeFrom (position : Nat) : List Char → Except QuotationFault Str
  | [] => .ok []
  | c :: cs =>
      if c = '\\' then
        match escapeAt cs with
        | .reads text count =>
            let next := position + spelledLength (c :: cs.take count)
            return text ++ (← unescapeFrom next (cs.drop count))
        | .fails count reason =>
            .error (.escape position (position + spelledLength (c :: cs.take count) - 1) reason)
      else return .char c :: (← unescapeFrom (position + spelledLength [c]) cs)
termination_by cs => cs.length
decreasing_by
  all_goals simp only [List.length_drop, List.length_cons]
  all_goals omega

def unescape (body : List Char) : Except QuotationFault Str :=
  if body.contains '\x00' then .error .nul
  else unescapeFrom 0 (body.flatMap escapeLineBreak)

def unquote (token : List Char) : Except QuotationFault Str :=
  unescape token.tail.dropLast

def QuotationFault.message : QuotationFault → String
  | .nul => "source code string cannot contain null bytes"
  | .escape first last reason =>
      "(unicode error) 'unicodeescape' codec can't decode bytes in position " ++
        toString first ++ "-" ++ toString last ++ ": " ++ reason ++ " (<unknown>, line 1)"

end QueryShell.Statement
