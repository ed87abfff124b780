import QueryShell.Statement.Token
import QueryShell.Text.Digit

namespace QueryShell.Statement

def isSpace (c : Char) : Bool :=
  c == ' ' || c == '\t' || c == '\x0c' || c == '\r' || c == '\n'

def ignored : (inComment : Bool) → List Char → Nat
  | _, [] => 0
  | true, c :: cs => ignored (c != '\n') cs + 1
  | false, c :: cs =>
      if isSpace c then ignored false cs + 1
      else if c == '/' && cs.head? == some '/' then ignored true cs + 1
      else 0

def isNameStart (c : Char) : Bool :=
  c.isAlpha || c == '_' || c == '$'

def isNamePart (c : Char) : Bool :=
  isNameStart c || ('0' ≤ c && c ≤ '9')

def leadingDigits (cs : List Char) : List Char :=
  cs.takeWhile Text.isDigit

def leadingFraction : List Char → List Char
  | '.' :: cs =>
      match leadingDigits cs with
      | [] => []
      | ds => '.' :: ds
  | _ => []

def leadingSign : List Char → List Char
  | '+' :: _ => ['+']
  | '-' :: _ => ['-']
  | _ => []

def leadingExponent : List Char → List Char
  | [] => []
  | c :: cs =>
      if c == 'e' || c == 'E' then
        let sign := leadingSign cs
        match leadingDigits (cs.drop sign.length) with
        | [] => []
        | ds => c :: (sign ++ ds)
      else []

def leadingNumber (cs : List Char) : List Char :=
  match leadingDigits cs with
  | [] => []
  | whole =>
      let afterWhole := cs.drop whole.length
      let fraction := leadingFraction afterWhole
      whole ++ fraction ++ leadingExponent (afterWhole.drop fraction.length)

/-- A string up to its closing quote. A backslash takes the next character along, whatever it
is. -/
def closeString (quote : Char) : List Char → Option (List Char)
  | [] => none
  | c :: cs =>
      if c = quote then some [c]
      else if c = '\\' then
        match cs with
        | [] => none
        | d :: ds => (closeString quote ds).map fun body => c :: d :: body
      else (closeString quote cs).map (c :: ·)

def isQuote (c : Char) : Bool :=
  c == '"' || c == '\''

def token? : List Char → Option Token
  | [] => none
  | c :: cs =>
      if isNameStart c then some (.name (c :: cs.takeWhile isNamePart))
      else if Text.isDigit c then some (.number (leadingNumber (c :: cs)))
      else if c = '-' then
        match leadingNumber cs with
        | [] => none
        | text => some (.number ('-' :: text))
      else if isQuote c then (closeString c cs).map fun body => .string (c :: body)
      else (Mark.ofChar? c).map .mark

inductive Stop where
  | finished
  | stuck (offset : Nat) (char : Char)
  deriving DecidableEq, Repr

structure Scan where
  tokens : List (Nat × Token)
  stop : Stop
  deriving DecidableEq, Repr

theorem leadingNumber_ne_nil {c : Char} {cs : List Char} (h : Text.isDigit c = true) :
    leadingNumber (c :: cs) ≠ [] := by
  simp [leadingNumber, leadingDigits, h]

theorem text_length_pos_of_token? {cs : List Char} {t : Token} (h : token? cs = some t) :
    0 < t.text.length := by
  cases cs with
  | nil => simp [token?] at h
  | cons c cs =>
      simp only [token?] at h
      split at h
      · cases h; simp [Token.text]
      · split at h
        · next hd =>
            cases h
            exact List.length_pos_iff.2 (leadingNumber_ne_nil hd)
        · split at h
          · split at h
            · cases h
            · cases h; simp [Token.text]
          · split at h
            · obtain ⟨body, _, rfl⟩ := Option.map_eq_some_iff.1 h
              simp [Token.text]
            · obtain ⟨mark, _, rfl⟩ := Option.map_eq_some_iff.1 h
              simp [Token.text]

def scanFrom (offset : Nat) (cs : List Char) : Scan :=
  let gap := ignored false cs
  match _rest_eq : cs.drop gap with
  | [] => ⟨[], .finished⟩
  | c :: rest =>
      match _token_eq : token? (c :: rest) with
      | none => ⟨[], .stuck (offset + gap) c⟩
      | some t =>
          let width := t.text.length
          let more := scanFrom (offset + gap + width) ((c :: rest).drop width)
          ⟨(offset + gap, t) :: more.tokens, more.stop⟩
termination_by cs.length
decreasing_by
  have hpos := text_length_pos_of_token? _token_eq
  have hlen : (c :: rest).length ≤ cs.length := by
    rw [← _rest_eq, List.length_drop]
    omega
  simp only [List.length_drop, List.length_cons] at hlen ⊢
  omega

def scan (cs : List Char) : Scan :=
  scanFrom 0 cs

end QueryShell.Statement
