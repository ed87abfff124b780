import Std.Data.HashMap
import QueryShell.Text.Blank
import QueryShell.Text.Casing
import QueryShell.Text.EmojiTable

namespace QueryShell.Text

def namesWithEmoji : List String → List (String × List Char)
  | name :: emoji :: rest => (name, emoji.toList) :: namesWithEmoji rest
  | _ => []

def emojiTable : Std.HashMap String (List Char) :=
  .ofList (namesWithEmoji (emojiLines.flatMap fun line => line.splitOn " "))

def variants : List (List Char × List Char) :=
  [("-emoji".toList, [Char.ofNat 0xfe0f]), ("-text".toList, [Char.ofNat 0xfe0e])]

def emoji? (code : List Char) : Option (List Char) :=
  let (name, variant) :=
    match variants.find? fun v => v.1.isSuffixOf code with
    | some v => (code.take (code.length - v.1.length), v.2)
    | none => (code, [])
  (emojiTable[String.ofList (lower name)]?).map (· ++ variant)

def codeAt? : List Char → Option (List Char)
  | [] => none
  | c :: cs =>
      if c = ':' then some []
      else if isBlank c then none
      else (codeAt? cs).map (c :: ·)

/-- Replaces the codes that are known. Colons of a code that is not known belong to no other
code. -/
def replaceEmoji : (fuel : Nat) → List Char → List Char
  | 0, cs => cs
  | _, [] => []
  | fuel + 1, c :: cs =>
      if c = ':' then
        match codeAt? cs with
        | some code =>
            ((emoji? code).getD (':' :: (code ++ [':']))) ++
              replaceEmoji fuel (cs.drop (code.length + 1))
        | none => c :: replaceEmoji fuel cs
      else c :: replaceEmoji fuel cs

def withEmoji (cs : List Char) : List Char :=
  replaceEmoji cs.length cs

end QueryShell.Text
