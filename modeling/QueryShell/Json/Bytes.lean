import QueryShell.Json.Reader
import QueryShell.Text.Encoding

namespace QueryShell.Json

open Text (Encoding)

def encodingOf (bytes : List UInt8) : Encoding :=
  match bytes with
  | 0x00 :: 0x00 :: 0xfe :: 0xff :: _ => .utf32Marked
  | 0xff :: 0xfe :: 0x00 :: 0x00 :: _ => .utf32Marked
  | 0xfe :: 0xff :: _ => .utf16Marked
  | 0xff :: 0xfe :: _ => .utf16Marked
  | 0xef :: 0xbb :: 0xbf :: _ => .utf8Marked
  | 0x00 :: b :: _ :: _ :: _ => if b == 0 then .utf32 true else .utf16 true
  | _ :: 0x00 :: c :: d :: _ => if c == 0 && d == 0 then .utf32 false else .utf16 false
  | [0x00, _] => .utf16 true
  | [_, 0x00] => .utf16 false
  | _ => .utf8

def readBytes? (bytes : List UInt8) : Option Value :=
  match Text.decodePassing? (encodingOf bytes) bytes with
  | none => none
  | some text => (read text).toOption

end QueryShell.Json
