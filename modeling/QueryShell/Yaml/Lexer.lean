import QueryShell.Yaml.Property

namespace QueryShell.Yaml

structure PossibleKey where
  position : Nat
  required : Bool
  index : Nat
  line : Nat
  column : Nat

structure Lexer where
  cursor : Cursor
  tokens : Array Token
  indents : List Nat
  flowDepth : Nat
  keyAllowed : Bool
  keys : List (Nat × PossibleKey)

namespace Lexer

def start (cs : List Char) : Lexer :=
  ⟨.start cs, #[], [], 0, true, []⟩

def inFlow (l : Lexer) : Bool :=
  l.flowDepth != 0

def push (l : Lexer) (token : Token) : Lexer :=
  { l with tokens := l.tokens.push token }

def allowKey (l : Lexer) (allowed : Bool) : Lexer :=
  { l with keyAllowed := allowed }

def take (l : Lexer) (count : Nat) (token : Token) : Lexer :=
  { l.push token with cursor := l.cursor.advance count }

def skipBlanks (l : Lexer) : (fuel : Nat) → Lexer
  | 0 => l
  | fuel + 1 =>
      let k := l.cursor.skipWhile (· == ' ')
      let k := if k.next? == some '#' then k.skipWhile (!isBreak ·) else k
      match k.takeBreak with
      | (some _, k) =>
          skipBlanks { l with cursor := k, keyAllowed := l.keyAllowed || !l.inFlow } fuel
      | (none, k) => { l with cursor := k }

def isStale (k : Cursor) (key : PossibleKey) : Bool :=
  key.line != k.line || key.index + 1024 < k.index

def dropStaleKeys (l : Lexer) : Except Defect Lexer :=
  if l.keys.any fun p => isStale l.cursor p.2 && p.2.required then .error .malformed
  else .ok { l with keys := l.keys.filter fun p => !isStale l.cursor p.2 }

def possibleKey? (l : Lexer) : Option PossibleKey :=
  l.keys.lookup l.flowDepth

def withoutKey (l : Lexer) : Lexer :=
  { l with keys := l.keys.filter fun p => p.1 != l.flowDepth }

def dropKey (l : Lexer) : Except Defect Lexer :=
  match l.possibleKey? with
  | some key => if key.required then .error .malformed else .ok l.withoutKey
  | none => .ok l

def saveKey (l : Lexer) : Except Defect Lexer := do
  if l.keyAllowed then
    let l ← l.dropKey
    let k := l.cursor
    let required := !l.inFlow && l.indents.head? == some k.column
    return { l with
      keys := (l.flowDepth, ⟨l.tokens.size, required, k.index, k.line, k.column⟩) :: l.keys }
  else return l

def closeBlocks (l : Lexer) (column : Nat) : Lexer :=
  if l.inFlow then l
  else
    let deeper := l.indents.takeWhile (column < ·)
    { l with
      indents := l.indents.drop deeper.length
      tokens := l.tokens ++ Array.replicate deeper.length Token.blockEnd }

def closeAllBlocks (l : Lexer) : Lexer :=
  if l.inFlow then l
  else { l with
    indents := []
    tokens := l.tokens ++ Array.replicate l.indents.length Token.blockEnd }

def openBlock (l : Lexer) (column position : Nat) (token : Token) : Lexer :=
  if isWithin l.indents.head? column then l
  else { l with
    indents := column :: l.indents
    tokens := l.tokens.insertIdxIfInBounds position token }

def openBlockHere (l : Lexer) (token : Token) : Lexer :=
  l.openBlock l.cursor.column l.tokens.size token

def directive (l : Lexer) : Except Defect Lexer := do
  let l ← l.closeAllBlocks.dropKey
  let (found, k) ← scanDirective l.cursor
  return { (l.push (.directive found)).allowKey false with cursor := k }

def bound (l : Lexer) (token : Token) : Except Defect Lexer := do
  let l ← l.closeAllBlocks.dropKey
  return (l.allowKey false).take 3 token

def openFlow (l : Lexer) (token : Token) : Except Defect Lexer := do
  let l ← l.saveKey
  return ({ l with flowDepth := l.flowDepth + 1 }.allowKey true).take 1 token

def closeFlow (l : Lexer) (token : Token) : Except Defect Lexer := do
  let l ← l.dropKey
  if l.inFlow then
    return ({ l with flowDepth := l.flowDepth - 1 }.allowKey false).take 1 token
  else throw .malformed

def comma (l : Lexer) : Except Defect Lexer := do
  let l ← (l.allowKey true).dropKey
  return l.take 1 .comma

def item (l : Lexer) : Except Defect Lexer := do
  if !l.inFlow && !l.keyAllowed then throw .malformed
  let l := if l.inFlow then l else l.openBlockHere .blockSequence
  let l ← (l.allowKey true).dropKey
  return l.take 1 .item

def key (l : Lexer) : Except Defect Lexer := do
  if !l.inFlow && !l.keyAllowed then throw .malformed
  let l := if l.inFlow then l else l.openBlockHere .blockMapping
  let l ← (l.allowKey (!l.inFlow)).dropKey
  return l.take 1 .key

/-- A colon makes a possible key one. Without a possible key it stands after a key that was marked
as such, or after none. -/
def value (l : Lexer) : Except Defect Lexer := do
  match l.possibleKey? with
  | some found =>
      let l := { l.withoutKey with
        tokens := l.tokens.insertIdxIfInBounds found.position .key }
      let l := if l.inFlow then l else l.openBlock found.column found.position .blockMapping
      return (l.allowKey false).take 1 .value
  | none =>
      if !l.inFlow && !l.keyAllowed then throw .malformed
      let l := if l.inFlow then l else l.openBlockHere .blockMapping
      return (l.allowKey (!l.inFlow)).take 1 .value

def keyLike (l : Lexer) (scan : Cursor → Except Defect (Token × Cursor)) :
    Except Defect Lexer := do
  let l ← l.saveKey
  let (token, k) ← scan l.cursor
  return { (l.push token).allowKey false with cursor := k }

def anchorLike (l : Lexer) (token : String → Token) : Except Defect Lexer :=
  l.keyLike fun k => orMalformed ((scanAnchor? k).map fun r => (token r.1, r.2))

def quoted (l : Lexer) (double : Bool) : Except Defect Lexer :=
  l.keyLike fun k => (scanQuoted double k).map fun r => (.scalar false r.1, r.2)

def plain (l : Lexer) : Except Defect Lexer := do
  let l ← l.saveKey
  let (text, lineEnded, k) := scanPlain l.inFlow l.indents.head? l.cursor
  return { (l.push (.scalar true (.ofChars text))).allowKey lineEnded with cursor := k }

def block (l : Lexer) (folded : Bool) : Except Defect Lexer := do
  let l ← (l.allowKey true).dropKey
  let (text, k) ← scanBlock folded l.indents.head? l.cursor
  return { l.push (.scalar false (.ofChars text)) with cursor := k }

def startsPlain (inFlow : Bool) (c : Char) (cs : List Char) : Bool :=
  if c == '-' then !endsToken cs
  else if c == '?' || c == ':' then !inFlow && !endsToken cs
  else !(endsToken [c] || ",[]\x7b\x7d#&*!|>'\"%@\x60".toList.contains c)

def token (l : Lexer) (c : Char) (cs : List Char) : Except Defect Lexer :=
  let atStart := l.cursor.column == 0
  if c == '%' && atStart then l.directive
  else if atStart && bounds '-' (c :: cs) then l.bound .documentStart
  else if atStart && bounds '.' (c :: cs) then l.bound .documentEnd
  else if c == '[' then l.openFlow .flowSequence
  else if c == '\x7b' then l.openFlow .flowMapping
  else if c == ']' then l.closeFlow .flowSequenceEnd
  else if c == '\x7d' then l.closeFlow .flowMappingEnd
  else if c == ',' then l.comma
  else if c == '-' && endsToken cs then l.item
  else if c == '?' && (l.inFlow || endsToken cs) then l.key
  else if c == ':' && (l.inFlow || endsToken cs) then l.value
  else if c == '*' then l.anchorLike .aliasOf
  else if c == '&' then l.anchorLike .anchor
  else if c == '!' then l.keyLike fun k => orMalformed (scanTag? k)
  else if c == '|' && !l.inFlow then l.block false
  else if c == '>' && !l.inFlow then l.block true
  else if c == '\'' then l.quoted false
  else if c == '"' then l.quoted true
  else if startsPlain l.inFlow c cs then l.plain
  else .error .malformed

def next (l : Lexer) : Except Defect (Lexer × Bool) := do
  let l ← (l.skipBlanks (l.cursor.rest.length + 1)).dropStaleKeys
  let l := l.closeBlocks l.cursor.column
  match l.cursor.rest with
  | [] => return (← l.closeAllBlocks.dropKey, false)
  | c :: cs => return (← l.token c cs, true)

def settled (l : Lexer) : List Token :=
  let pending := l.keys.filter fun p => !isStale l.cursor p.2
  l.tokens.toList.take ((pending.map (·.2.position)).foldl min l.tokens.size)

end Lexer

structure TokenStream where
  tokens : List Token
  stop : Option Defect

def Lexer.run (l : Lexer) : (fuel : Nat) → TokenStream
  | 0 => ⟨l.settled, some .malformed⟩
  | fuel + 1 =>
      match l.next with
      | .ok (l, true) => l.run fuel
      | .ok (l, false) => ⟨l.tokens.toList, none⟩
      | .error defect => ⟨l.settled, some defect⟩

def withoutMark : List Char → List Char
  | '\ufeff' :: cs => cs
  | cs => cs

def tokens (document : List Char) : TokenStream :=
  let cs := unifyBreaks document
  if cs.all isAllowed then (Lexer.start (withoutMark cs)).run (cs.length + 1)
  else ⟨[], some .malformed⟩

end QueryShell.Yaml
