namespace QueryShell.Yaml

def isBreak (c : Char) : Bool :=
  c == '\n' || c == '\u0085' || c == '\u2028' || c == '\u2029'

def breakText (c : Char) : Char :=
  if c == '\u0085' then '\n' else c

def isSpaceOrTab (c : Char) : Bool :=
  c == ' ' || c == '\t'

def isAllowed (c : Char) : Bool :=
  let n := c.toNat
  n == 0x09 || n == 0x0a || n == 0x0d || (0x20 ≤ n && n ≤ 0x7e) || n == 0x85 ||
    (0xa0 ≤ n && n ≤ 0xfffd) || 0x10000 ≤ n

def endsLine : List Char → Bool
  | [] => true
  | c :: _ => isBreak c

def endsWord (cs : List Char) : Bool :=
  endsLine cs || cs.head? == some ' '

def endsToken (cs : List Char) : Bool :=
  endsWord cs || cs.head? == some '\t'

def isFlowIndicator (c : Char) : Bool :=
  c == ',' || c == '[' || c == ']' || c == '\x7b' || c == '\x7d'

def bounds (mark : Char) (cs : List Char) : Bool :=
  cs.take 3 == [mark, mark, mark] && endsToken (cs.drop 3)

def atBound (cs : List Char) : Bool :=
  bounds '-' cs || bounds '.' cs

def isNameChar (c : Char) : Bool :=
  c.isAlphanum || c == '-' || c == '_'

def unifyBreaks : List Char → List Char
  | [] => []
  | '\r' :: '\n' :: cs => '\n' :: unifyBreaks cs
  | c :: cs => (if c = '\r' then '\n' else c) :: unifyBreaks cs

end QueryShell.Yaml
