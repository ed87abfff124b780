import QueryShell.Text.Digit
import QueryShell.Yaml.Cursor
import QueryShell.Yaml.Token

namespace QueryShell.Yaml

def fold (first : Char) (further : List Char) : List Char :=
  if first != '\n' then first :: further
  else if further.isEmpty then [' ']
  else further

def isColonEnd (inFlow : Bool) (cs : List Char) : Bool :=
  endsToken cs || (inFlow && (cs.head?.map isFlowIndicator).getD false)

def plainWord (inFlow : Bool) : List Char → List Char
  | [] => []
  | c :: cs =>
      if endsToken (c :: cs) then []
      else if c == ':' && isColonEnd inFlow cs then []
      else if inFlow && (isFlowIndicator c || c == '?') then []
      else c :: plainWord inFlow cs

def emptyLines : List Char → Option (List Char) × Nat
  | [] => (some [], 0)
  | c :: cs =>
      if c == ' ' then
        let (breaks, count) := emptyLines cs
        (breaks, count + 1)
      else if isBreak c then
        if atBound cs then (none, 1)
        else
          let (breaks, count) := emptyLines cs
          (breaks.map (breakText c :: ·), count + 1)
      else (some [], 0)

def plainGap (k : Cursor) : List Char × Bool × Cursor :=
  let afterSpaces := k.skipWhile (· == ' ')
  match afterSpaces.takeBreak with
  | (none, _) => (k.rest.takeWhile (· == ' '), false, afterSpaces)
  | (some first, k) =>
      if atBound k.rest then ([], true, k)
      else
        match emptyLines k.rest with
        | (none, count) => ([], true, k.advance count)
        | (some further, count) => (fold first further, true, k.advance count)

def isWithin (indent : Option Nat) (column : Nat) : Bool :=
  match indent with
  | none => false
  | some i => column ≤ i

def plainFrom (inFlow : Bool) (indent : Option Nat) :
    (fuel : Nat) → (gap : List Char) → (lineEnded : Bool) → Cursor → List Char × Bool × Cursor
  | 0, _, lineEnded, k => ([], lineEnded, k)
  | fuel + 1, gap, lineEnded, k =>
      let word := if k.next? == some '#' then [] else plainWord inFlow k.rest
      if word.isEmpty then ([], lineEnded, k)
      else
        let (nextGap, ended, k) := plainGap (k.advance word.length)
        if nextGap.isEmpty || k.next? == some '#' || (!inFlow && isWithin indent k.column) then
          (gap ++ word, ended, k)
        else
          let (text, ended, k) := plainFrom inFlow indent fuel nextGap ended k
          (gap ++ word ++ text, ended, k)

def scanPlain (inFlow : Bool) (indent : Option Nat) (k : Cursor) : List Char × Bool × Cursor :=
  plainFrom inFlow indent k.rest.length [] false k

def quotedLines (atStart : Bool) : List Char → Option (List Char × Nat)
  | [] => some ([], 0)
  | c :: cs =>
      if atStart && atBound (c :: cs) then none
      else if isSpaceOrTab c then (quotedLines false cs).map fun r => (r.1, r.2 + 1)
      else if isBreak c then (quotedLines true cs).map fun r => (breakText c :: r.1, r.2 + 1)
      else some ([], 0)

def namedEscapes : List (Char × Char) :=
  [('0', '\x00'), ('a', '\x07'), ('b', '\x08'), ('t', '\t'), ('\t', '\t'), ('n', '\n'),
    ('v', '\x0b'), ('f', '\x0c'), ('r', '\r'), ('e', '\x1b'), (' ', ' '), ('"', '"'),
    ('\\', '\\'), ('/', '/'), ('N', '\u0085'), ('_', '\u00a0'), ('L', '\u2028'), ('P', '\u2029')]

def hexNumber? (count : Nat) (cs : List Char) : Option Nat :=
  let digits := (cs.take count).filterMap Text.hexValue?
  if digits.length = count then some (Text.spelled 16 digits) else none

def numbered (n : Nat) : Except Defect CodePoint :=
  if n < 0x110000 then .ok (.ofNat n)
  else if n < 0x80000000 then
    .error (.fault (.other "ValueError" "chr() arg not in range(0x110000)"))
  else .error (.fault (.other "OverflowError" "Python int too large to convert to C int"))

def escape (cs : List Char) : Except Defect (Str × List Char) :=
  match cs with
  | [] => .error .malformed
  | c :: rest =>
      match namedEscapes.lookup c, Text.numberedEscapes.lookup c with
      | some named, _ => .ok ([.char named], rest)
      | none, some count => do
          let n ← orMalformed (hexNumber? count rest)
          return ([← numbered n], rest.drop count)
      | none, none =>
          if isBreak c then do
            let (breaks, count) ← orMalformed (quotedLines true rest)
            return (.ofChars breaks, rest.drop count)
          else .error .malformed

def quotedGap (cs : List Char) : Except Defect (List Char × List Char) :=
  match cs.dropWhile isSpaceOrTab with
  | [] => .error .malformed
  | c :: rest =>
      if isBreak c then do
        let (further, count) ← orMalformed (quotedLines true rest)
        return (fold (breakText c) further, rest.drop count)
      else .ok (cs.takeWhile isSpaceOrTab, c :: rest)

def quotedFrom (double : Bool) : (fuel : Nat) → List Char → Except Defect (Str × List Char)
  | 0, _ | _, [] => .error .malformed
  | fuel + 1, c :: cs => do
      if isSpaceOrTab c || isBreak c then
        let (gap, rest) ← quotedGap (c :: cs)
        let (text, rest) ← quotedFrom double fuel rest
        return (.ofChars gap ++ text, rest)
      else if double && c == '\\' then
        let (piece, rest) ← escape cs
        let (text, rest) ← quotedFrom double fuel rest
        return (piece ++ text, rest)
      else if !double && c == '\'' && cs.head? == some '\'' then
        let (text, rest) ← quotedFrom double fuel cs.tail
        return (.char '\'' :: text, rest)
      else if c == (if double then '"' else '\'') then return ([], cs)
      else
        let (text, rest) ← quotedFrom double fuel cs
        return (.char c :: text, rest)

def scanQuoted (double : Bool) (k : Cursor) : Except Defect (Str × Cursor) := do
  let body := k.rest.tail
  let (text, rest) ← quotedFrom double (body.length + 1) body
  return (text, k.moveTo rest)

inductive Chomping where
  | strip
  | clip
  | keep
  deriving DecidableEq, Repr

def chomping? (c : Char) : Option Chomping :=
  if c == '+' then some .keep
  else if c == '-' then some .strip
  else none

def isAsciiDigit (c : Char) : Bool :=
  '0' ≤ c && c ≤ '9'

def blockHeader (cs : List Char) : Chomping × Option Nat × Nat :=
  let digit (cs : List Char) : Option Nat :=
    match cs with
    | c :: _ => if isAsciiDigit c then some (c.toNat - 48) else none
    | [] => none
  match cs.head?.bind chomping? with
  | some chomping =>
      match digit cs.tail with
      | some n => (chomping, some n, 2)
      | none => (chomping, none, 1)
  | none =>
      match digit cs with
      | some n =>
          match cs.tail.head?.bind chomping? with
          | some chomping => (chomping, some n, 2)
          | none => (.clip, some n, 1)
      | none => (.clip, none, 0)

def leadingLines (column widest : Nat) : List Char → List Char × Nat × Nat
  | [] => ([], widest, 0)
  | c :: cs =>
      if c == ' ' then
        let (breaks, widest, count) := leadingLines (column + 1) (max widest (column + 1)) cs
        (breaks, widest, count + 1)
      else if isBreak c then
        let (breaks, widest, count) := leadingLines 0 widest cs
        (breakText c :: breaks, widest, count + 1)
      else ([], widest, 0)

def blockBreaks (indent column : Nat) : List Char → List Char × Nat
  | [] => ([], 0)
  | c :: cs =>
      if c == ' ' && column < indent then
        let (breaks, count) := blockBreaks indent (column + 1) cs
        (breaks, count + 1)
      else if isBreak c then
        let (breaks, count) := blockBreaks indent 0 cs
        (breakText c :: breaks, count + 1)
      else ([], 0)

structure BlockEnd where
  last : List Char
  further : List Char
  cursor : Cursor

def startsIndented (cs : List Char) : Bool :=
  (cs.head?.map isSpaceOrTab).getD false

/-- The lines of a block scalar, after some breaks. Breaks between two lines that start with text
are folded if the scalar is. -/
def blockLines (folded : Bool) (indent : Nat) :
    (fuel : Nat) → (breaks : List Char) → Cursor → List Char × BlockEnd
  | 0, breaks, k => ([], ⟨[], breaks, k⟩)
  | fuel + 1, breaks, k =>
      if k.column != indent || k.isAtEnd then ([], ⟨[], breaks, k⟩)
      else
        let line := k.rest.takeWhile (!isBreak ·)
        let (last, k) := (k.advance line.length).takeBreak
        let (further, count) := blockBreaks indent k.column k.rest
        let k := k.advance count
        if k.column == indent && !k.isAtEnd then
          let joint :=
            if folded && last == some '\n' && !startsIndented line && !startsIndented k.rest then
              (if further.isEmpty then [' '] else [])
            else last.toList
          let (text, ending) := blockLines folded indent fuel further k
          (breaks ++ line ++ joint ++ text, ending)
        else (breaks ++ line, ⟨last.toList, further, k⟩)

def scanBlock (folded : Bool) (enclosing : Option Nat) (k : Cursor) :
    Except Defect (List Char × Cursor) := do
  let (chomping, width, count) := blockHeader k.rest.tail
  if width == some 0 then throw .malformed
  let k := k.advance (count + 1)
  if !endsWord k.rest then throw .malformed
  let k ← orMalformed k.closeLine?
  let least := (enclosing.map (· + 1)).getD 0 |> max 1
  let (indent, breaks, count) :=
    match width with
    | some n =>
        let indent := least + n - 1
        (indent, blockBreaks indent k.column k.rest)
    | none =>
        let (breaks, widest, count) := leadingLines k.column 0 k.rest
        (max least widest, breaks, count)
  let k := k.advance count
  let (text, ending) := blockLines folded indent (k.rest.length + 1) breaks k
  let last := if chomping = .strip then [] else ending.last
  let further := if chomping = .keep then ending.further else []
  return (text ++ last ++ further, ending.cursor)

end QueryShell.Yaml
