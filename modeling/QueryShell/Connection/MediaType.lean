import QueryShell.Fault
import QueryShell.Text.Blank
import QueryShell.Text.Casing
import QueryShell.Text.Codec
import QueryShell.Text.Encoding
import QueryShell.Text.Quoted

namespace QueryShell.Connection

/-- The parts between semicolons. A semicolon between quotes separates nothing; a quote after a
backslash is none. -/
def partsOf (quoted : Bool) (last : Char) : List Char → List (List Char)
  | [] => [[]]
  | c :: cs =>
      if c == ';' && !quoted then [] :: partsOf false c cs
      else
        match partsOf (if c == '"' && last != '\\' then !quoted else quoted) c cs with
        | [] => [[c]]
        | part :: parts => (c :: part) :: parts

def unquotedValue (cs : List Char) : List Char :=
  let inner := cs.tail.dropLast
  if cs.length < 2 then cs
  else if cs.head? == some '"' && cs.getLast? == some '"' then unescaped inner
  else if cs.head? == some '<' && cs.getLast? == some '>' then inner
  else cs
where
  unescaped : List Char → List Char
    | '\\' :: c :: cs =>
        if c == '\\' || c == '"' then c :: unescaped cs else '\\' :: unescaped (c :: cs)
    | c :: cs => c :: unescaped cs
    | [] => []

structure Parameter where
  name : List Char
  value : List Char

def Parameter.ofPart (part : List Char) : Parameter :=
  let name := part.takeWhile (· != '=')
  ⟨Text.lower (Text.trim name), unquotedValue (Text.trim (part.drop (name.length + 1)))⟩

structure Piece where
  number : Option Nat
  value : List Char
  escaped : Bool

def isWordPart (c : Char) : Bool :=
  c.isAlphanum || c == '_'

def Parameter.piece? (p : Parameter) : Option (List Char × Piece) :=
  let name := p.name.takeWhile isWordPart
  let escaped := p.name.getLast? == some '*'
  match name, p.name.drop name.length with
  | _ :: _, ['*'] => some (name, ⟨none, p.value, escaped⟩)
  | _ :: _, '*' :: rest =>
      let digits := rest.takeWhile fun c => '0' ≤ c && c ≤ '9'
      let ending := rest.drop digits.length
      if !digits.isEmpty && (ending.isEmpty || ending == ['*']) then
        some (name, ⟨some (Text.decimalValue digits), p.value, escaped⟩)
      else none
  | _, _ => none

def withoutEscapes : List Char → List Char
  | '%' :: a :: b :: cs =>
      match Text.hexValue? a, Text.hexValue? b with
      | some x, some y => Char.ofNat (16 * x + y) :: withoutEscapes cs
      | _, _ => '%' :: withoutEscapes (a :: b :: cs)
  | c :: cs => c :: withoutEscapes cs
  | [] => []

def Piece.atMost (p q : Piece) : Bool :=
  match p.number, q.number with
  | none, some _ => true
  | some _, none => false
  | some m, some n => m < n || (m == n && String.ofList p.value ≤ String.ofList q.value)
  | none, none => String.ofList p.value ≤ String.ofList q.value

def Piece.text (p : Piece) : List Char :=
  if p.escaped then withoutEscapes p.value else p.value

/-- A character as a byte; one beyond all bytes is written by number. -/
def bytesOfChar (c : Char) : List UInt8 :=
  if c.toNat ≤ 0xff then [UInt8.ofNat c.toNat]
  else (Text.numberedEscape c.toNat).map fun d => UInt8.ofNat d.toNat

def unordered? (pieces : List (List Char × Piece)) : Option Fault :=
  (pieces.find? fun p => pieces.any fun q => q.1 == p.1 && kind q.2 != kind p.2).map fun p =>
    let (lesser, greater) := if p.2.number.isSome then ("NoneType", "int") else ("int", "NoneType")
    .other "TypeError" s!"'<' not supported between instances of '{lesser}' and '{greater}'"
where
  kind (piece : Piece) : Bool := piece.number.isSome

variable [Text.Codecs]

def declaredText (cs : List Char) : Str :=
  match Text.splitAt '\'' cs with
  | encoding :: _ :: first :: rest =>
      let text := Text.joinWith ['\''] (first :: rest)
      let name := if encoding.isEmpty then "ascii".toList else encoding
      let bytes := text.flatMap bytesOfChar
      match Text.Encoding.named? name, Text.codecNamed? (String.ofList (Text.plainName name)) with
      | some known, _ => .ofChars ((Text.decodeStrict? known bytes).getD text)
      | none, some codec => ((Text.Codecs.decode codec bytes).mapM id).getD (Str.ofChars text)
      | none, none => .ofChars text
  | _ => .ofChars cs

def joined (pieces : List Piece) : Str :=
  let whole := (pieces.mergeSort Piece.atMost).flatMap Piece.text
  if pieces.any (·.escaped) then declaredText whole else .ofChars whole

/-- The value of a parameter. The first part is the type, but may look like a parameter. One that is
given at once counts before one in pieces. -/
def parameter? (contentType : String) (name : List Char) : Except Fault (Option Str) :=
  let parameters := (partsOf false ';' contentType.toList).map Parameter.ofPart
  let whole := parameters.take 1 ++ (parameters.drop 1).filter (·.piece?.isNone)
  let pieces := (parameters.drop 1).filterMap Parameter.piece?
  match unordered? pieces with
  | some fault => .error fault
  | none =>
      match whole.find? (·.name == name) with
      | some found => .ok (some (.ofChars found.value))
      | none =>
          match (pieces.filter (·.1 == name)).map Prod.snd with
          | [] => .ok none
          | found => .ok (some (joined found))

inductive Charset where
  | encoding (encoding : Text.Encoding)
  | codec (name : String)
  | unusable (fault : Fault)

def conversions : List (List String × Fault) :=
  let binary (names : List String) : List String × Fault := (names, .other "AssertionError" "")
  [binary ["hex_codec", "hex"],
    binary ["base64_codec", "base64", "base_64"],
    binary ["bz2_codec", "bz2"],
    binary ["zlib_codec", "zip", "zlib"],
    binary ["quopri_codec", "quopri", "quoted_printable", "quotedprintable"],
    binary ["uu_codec", "uu"],
    (["rot_13", "rot13"], .other "TypeError"
      "descriptor 'translate' for 'str' objects doesn't apply to a 'bytes' object"),
    (["idna"], .other "UnicodeError" "Unsupported error handling replace"),
    (["undefined"], .other "UnicodeError" "undefined encoding")]

def Charset.named (name : List Char) : Charset :=
  let plain := String.ofList (Text.plainName name)
  match conversions.find? fun p => Text.isAmong p.1 plain with
  | some (_, fault) => .unusable fault
  | none =>
      match Text.Encoding.named? name, Text.codecNamed? plain with
      | some known, _ => .encoding known
      | none, some name => .codec name
      | none, none => .encoding .utf8

def charsetOf (contentType : Option String) : Charset :=
  match (contentType.map (parameter? · "charset".toList)).getD (.ok none) with
  | .error fault => .unusable fault
  | .ok none => .encoding .utf8
  | .ok (some name) =>
      match name.chars? with
      | some cs => if cs.all (·.toNat < 0x80) then .named cs else .encoding .utf8
      | none => .encoding .utf8

/-- Why a body cannot be read: its encoding leaves the byte order to a mark, which is missing. A
body that is too short for a mark may do without. -/
def unmarked? : Text.Encoding → List UInt8 → Option Fault
  | .utf16Marked, a :: b :: _ => if [a, b] ∈ marks16 then none else some (fault "UTF-16")
  | .utf32Marked, a :: b :: c :: d :: _ =>
      if [a, b, c, d] ∈ marks32 then none else some (fault "UTF-32")
  | _, _ => none
where
  marks16 : List (List UInt8) := [[0xfe, 0xff], [0xff, 0xfe]]
  marks32 : List (List UInt8) := [[0x00, 0x00, 0xfe, 0xff], [0xff, 0xfe, 0x00, 0x00]]
  fault (name : String) : Fault :=
    .other "UnicodeError" (name ++ " stream does not start with BOM")

def Charset.read (charset : Charset) (body : List UInt8) : Except Fault Str :=
  match charset with
  | .encoding known =>
      match unmarked? known body with
      | some fault => .error fault
      | none => .ok (.ofChars (Text.decodeLenient known body))
  | .codec name =>
      if body.isEmpty then .ok []
      else .ok ((Text.Codecs.decode name body).map (·.getD (.char CodePoint.replacement)))
  | .unusable fault => if body.isEmpty then .ok [] else .error fault

end QueryShell.Connection
