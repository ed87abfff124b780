import QueryShell.CodePoint
import QueryShell.Fault
import QueryShell.Text.CodePage
import QueryShell.Text.Digit

namespace QueryShell.Text

inductive Encoding where
  | utf8
  | utf16 (bigEndian : Bool)
  | utf32 (bigEndian : Bool)
  | utf16Marked
  | utf32Marked
  | utf8Marked
  | ascii
  | latin1
  | page (page : CodePage)
  deriving DecidableEq, Repr

/-- The code point of a number. Half of a surrogate pair counts as one only with `halves`. -/
def point? (halves : Bool) (n : Nat) : Option CodePoint :=
  if isHighSurrogate n || isLowSurrogate n then if halves then some (.ofNat n) else none
  else if Nat.isValidChar n then some (.ofNat n)
  else none

def isContinuation (b : UInt8) : Bool :=
  0x80 ≤ b.toNat && b.toNat ≤ 0xbf

def leadOf? (halves : Bool) (b : UInt8) : Option (Nat × Nat × Nat × Nat) :=
  let n := b.toNat
  if 0xc2 ≤ n && n ≤ 0xdf then some (1, 0x80, 0xbf, n - 0xc0)
  else if n == 0xe0 then some (2, 0xa0, 0xbf, 0)
  else if n == 0xed then some (2, 0x80, if halves then 0xbf else 0x9f, 0xd)
  else if 0xe1 ≤ n && n ≤ 0xef then some (2, 0x80, 0xbf, n - 0xe0)
  else if n == 0xf0 then some (3, 0x90, 0xbf, 0)
  else if 0xf1 ≤ n && n ≤ 0xf3 then some (3, 0x80, 0xbf, n - 0xf0)
  else if n == 0xf4 then some (3, 0x80, 0x8f, 4)
  else none

def followers (count least greatest : Nat) (bytes : List UInt8) : List UInt8 :=
  match bytes with
  | b :: rest =>
      if least ≤ b.toNat && b.toNat ≤ greatest then
        b :: (rest.take (count - 1)).takeWhile isContinuation
      else []
  | [] => []

def decodeUtf8 (halves : Bool) : List UInt8 → List (Option CodePoint)
  | [] => []
  | b :: bytes =>
      if b.toNat < 0x80 then some (.ofNat b.toNat) :: decodeUtf8 halves bytes
      else
        match leadOf? halves b with
        | none => none :: decodeUtf8 halves bytes
        | some (count, least, greatest, bits) =>
            let found := followers count least greatest bytes
            let whole :=
              if found.length < count then none
              else point? halves (found.foldl (fun n c => n * 64 + c.toNat % 64) bits)
            whole :: decodeUtf8 halves (bytes.drop found.length)
termination_by bytes => bytes.length
decreasing_by
  all_goals simp only [List.length_drop, List.length_cons]
  all_goals omega

def pairsOf (bigEndian : Bool) : List UInt8 → List (Option Nat)
  | [] => []
  | [_] => [none]
  | a :: b :: bytes =>
      some (if bigEndian then a.toNat * 256 + b.toNat else b.toNat * 256 + a.toNat) ::
        pairsOf bigEndian bytes

def decodeUnits16 (halves : Bool) :
    (high : Option Nat) → List (Option Nat) → List (Option CodePoint)
  | none, [] => []
  | some high, [] => [point? halves high]
  | none, none :: rest => none :: decodeUnits16 halves none rest
  | some high, none :: rest =>
      if halves then point? halves high :: none :: decodeUnits16 halves none rest
      else none :: decodeUnits16 halves none rest
  | none, some n :: rest =>
      if isHighSurrogate n then decodeUnits16 halves (some n) rest
      else point? halves n :: decodeUnits16 halves none rest
  | some high, some n :: rest =>
      if isLowSurrogate n then
        point? halves (joinSurrogates high n) :: decodeUnits16 halves none rest
      else if isHighSurrogate n then point? halves high :: decodeUnits16 halves (some n) rest
      else point? halves high :: point? halves n :: decodeUnits16 halves none rest

def decodeUnits32 (halves bigEndian : Bool) : List UInt8 → List (Option CodePoint)
  | [] => []
  | a :: b :: c :: d :: bytes =>
      let n :=
        if bigEndian then ((a.toNat * 256 + b.toNat) * 256 + c.toNat) * 256 + d.toNat
        else ((d.toNat * 256 + c.toNat) * 256 + b.toNat) * 256 + a.toNat
      point? halves n :: decodeUnits32 halves bigEndian bytes
  | _ => [none]

def decode (halves : Bool) : Encoding → List UInt8 → List (Option CodePoint)
  | .utf8, bytes => decodeUtf8 halves bytes
  | .utf16 bigEndian, bytes => decodeUnits16 halves none (pairsOf bigEndian bytes)
  | .utf32 bigEndian, bytes => decodeUnits32 halves bigEndian bytes
  | .utf16Marked, 0xfe :: 0xff :: bytes => decodeUnits16 halves none (pairsOf true bytes)
  | .utf16Marked, 0xff :: 0xfe :: bytes => decodeUnits16 halves none (pairsOf false bytes)
  | .utf16Marked, bytes => decodeUnits16 halves none (pairsOf false bytes)
  | .utf32Marked, 0x00 :: 0x00 :: 0xfe :: 0xff :: bytes => decodeUnits32 halves true bytes
  | .utf32Marked, 0xff :: 0xfe :: 0x00 :: 0x00 :: bytes => decodeUnits32 halves false bytes
  | .utf32Marked, bytes => decodeUnits32 halves false bytes
  | .utf8Marked, 0xef :: 0xbb :: 0xbf :: bytes => decodeUtf8 halves bytes
  | .utf8Marked, bytes => decodeUtf8 halves bytes
  | .ascii, bytes => bytes.map fun b => if b.toNat < 0x80 then some (.ofNat b.toNat) else none
  | .latin1, bytes => bytes.map fun b => some (.ofNat b.toNat)
  | .page page, bytes => (page.decode bytes).map (·.map .char)

/-- Reads all bytes, halves of surrogate pairs included. -/
def decodePassing? (encoding : Encoding) (bytes : List UInt8) : Option Str :=
  (decode true encoding bytes).mapM id

def decodeChars (encoding : Encoding) (bytes : List UInt8) : List (Option Char) :=
  (decode false encoding bytes).map (·.bind CodePoint.char?)

def decodeStrict? (encoding : Encoding) (bytes : List UInt8) : Option (List Char) :=
  (decodeChars encoding bytes).mapM id

def decodeLenient (encoding : Encoding) (bytes : List UInt8) : List Char :=
  (decodeChars encoding bytes).map (·.getD CodePoint.replacement)

def encodingNames : List (Encoding × List String) :=
  [(.utf8, ["utf_8", "utf8", "u8", "utf", "utf8_ucs2", "utf8_ucs4", "cp65001"]),
    (.utf8Marked, ["utf_8_sig"]),
    (.utf16Marked, ["utf_16", "utf16", "u16"]),
    (.utf16 false, ["utf_16_le", "utf_16le", "unicodelittleunmarked"]),
    (.utf16 true, ["utf_16_be", "utf_16be", "unicodebigunmarked"]),
    (.utf32Marked, ["utf_32", "utf32", "u32"]),
    (.utf32 false, ["utf_32_le", "utf_32le"]),
    (.utf32 true, ["utf_32_be", "utf_32be"]),
    (.ascii, ["ascii", "646", "ansi_x3.4_1968", "ansi_x3_4_1968", "ansi_x3.4_1986", "cp367",
      "csascii", "ibm367", "iso646_us", "iso_646.irv_1991", "iso_ir_6", "us", "us_ascii"]),
    (.latin1, ["latin_1", "iso8859_1", "8859", "cp819", "csisolatin1", "ibm819", "iso8859",
      "iso_8859_1", "iso_8859_1_1987", "iso_ir_100", "l1", "latin", "latin1", "charmap"])]

def plainName (name : List Char) : List Char :=
  let isWord (c : Char) : Bool := c.isAlphanum || c == '.'
  let rec words : List Char → List Char
    | [] => []
    | c :: cs =>
        if isWord c then c.toLower :: words cs
        else
          match cs with
          | d :: _ => if isWord d then '_' :: words cs else words cs
          | [] => []
  words (name.dropWhile (!isWord ·))

def Encoding.named? (name : List Char) : Option Encoding :=
  let plain := String.ofList (plainName name)
  match encodingNames.find? fun p => isAmong p.2 plain with
  | some (encoding, _) => some encoding
  | none => (CodePage.named? plain).map .page

def encodeUtf8 (s : String) : List UInt8 :=
  s.toUTF8.toList

/-- Why a text cannot be encoded: where its first halves of surrogate pairs stand. -/
def unencodable (s : Str) : Fault :=
  let first := s.leading.length
  let halves := (s.drop first).takeWhile fun p => p.char?.isNone
  let place :=
    match halves with
    | [half] =>
        "character '\\u" ++ String.ofList (hexDigits 4 half.toNat) ++ "' in position " ++
          toString first
    | _ => "characters in position " ++ toString first ++ "-" ++
        toString (first + halves.length - 1)
  .other "UnicodeEncodeError"
    ("'utf-8' codec can't encode " ++ place ++ ": surrogates not allowed")

def encodable (s : Str) : Except Fault String :=
  match s.text? with
  | some text => .ok text
  | none => .error (unencodable s)

end QueryShell.Text
