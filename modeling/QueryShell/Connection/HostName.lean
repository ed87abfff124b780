import QueryShell.Text.Blank
import QueryShell.Text.Casing
import QueryShell.Text.Direction
import QueryShell.Text.Joining
import QueryShell.Text.NormalForm
import QueryShell.Text.Punycode

namespace QueryShell.Connection

def isLabelEnd (c : Char) : Bool :=
  c == '.' || c == '\u3002' || c == '\uff0e' || c == '\uff61'

def labels : List Char → List (List Char)
  | [] => [[]]
  | c :: cs =>
      if isLabelEnd c then [] :: labels cs
      else
        match labels cs with
        | [] => [[c]]
        | label :: rest => (c :: label) :: rest

def isAsciiLabelChar (c : Char) : Bool :=
  ('a' ≤ c && c ≤ 'z') || ('0' ≤ c && c ≤ '9') || c == '-'

def hyphensFit (label : List Char) : Bool :=
  label.head? != some '-' && label.getLast? != some '-' && (label.drop 2).take 2 != ['-', '-']

def japaneseRanges : Array Text.Range := Text.Range.ofLines
  ["3005 3007 3041-3096 309d-309e 30a1-30fa 30fd-30fe 31f0-31ff 3400-9fff fa0e-fa29 16fe3",
    "16ff0-16ff1 1aff0-1b122 1b150-1b167 20000-3134a"]

def greekRanges : Array Text.Range := Text.Range.ofLines
  ["371-3e1 3f3-3fc 1d26-1d2a 1f00-1ff6 ab65"]

def hebrewRanges : Array Text.Range := Text.Range.ofLines ["591-5f4 fb1e"]

def arabicDigitRanges : Array Text.Range := Text.Range.ofLines ["660-669"]

def persianDigitRanges : Array Text.Range := Text.Range.ofLines ["6f0-6f9"]

def isOf (ranges : Array Text.Range) (c : Char) : Bool :=
  Text.inRanges ranges c.toNat

def isSilenced (before : List Char) : Bool :=
  before.head?.any (Text.combiningClass · == 9)

def wouldJoin (before after : List Char) : Bool :=
  let next (cs : List Char) : Option Char := cs.find? (!Text.isJoinedPast ·)
  (next before).any Text.joinsAfter && (next after).any Text.joinsBefore

def fitsContext (label before after : List Char) (c : Char) : Bool :=
  if c == '\u00b7' then before.head? == some 'l' && after.head? == some 'l'
  else if c == '\u0375' then after.head?.any (isOf greekRanges)
  else if c == '\u05f3' || c == '\u05f4' then before.head?.any (isOf hebrewRanges)
  else if c == '\u30fb' then label.any (isOf japaneseRanges)
  else if isOf arabicDigitRanges c then !label.any (isOf persianDigitRanges)
  else if isOf persianDigitRanges c then !label.any (isOf arabicDigitRanges)
  else if c == '\u200c' then isSilenced before || wouldJoin before after
  else if c == '\u200d' then isSilenced before
  else false

def charsFit (label before : List Char) : List Char → Bool
  | [] => true
  | c :: cs =>
      (isAsciiLabelChar c || Text.isHostChar c || fitsContext label before cs c) &&
        charsFit label (c :: before) cs

def directionFits (label : List Char) : Bool :=
  let directions := label.map Text.Direction.ofChar
  if directions.any fun d => d == .rightToLeft || d == .arabicDigit then
    directions.head? == some .rightToLeft && !directions.contains .leftToRight &&
      !(directions.contains .digit && directions.contains .arabicDigit) &&
      (directions.reverse.find? (· != .mark)).any Text.Direction.mayEnd
  else true

def labelFits (label : List Char) : Bool :=
  !label.isEmpty && Text.normalForm label == label && hyphensFit label &&
    !label.head?.any Text.isHostMark && charsFit label [] label && directionFits label

def asciiMark : List Char := "xn--".toList

def encodesLabel (label : List Char) : Bool :=
  let body := label.drop asciiMark.length
  !body.isEmpty && body.getLast? != some '-' && (Text.Punycode.decode? body).any labelFits

def longestLabel : Nat := 63

def longestName : Nat := 253

def asciiLabel? (label : List Char) : Option (List Char) :=
  let isAscii := label.all fun c => c.toNat < 128
  let fits := if isAscii && asciiMark.isPrefixOf label then encodesLabel label else labelFits label
  let written := if isAscii then label else asciiMark ++ Text.Punycode.encode label
  if fits && written.length ≤ longestLabel then some written else none

def asciiName? (name : List Char) : Option (List Char) := do
  let found := labels (Text.lower name)
  let closed := 1 < found.length && found.getLast? == some []
  let written ← (if closed then found.dropLast else found).mapM asciiLabel?
  let joined := Text.joinWith ['.'] (if closed then written ++ [[]] else written)
  if joined.length ≤ longestName + (if closed then 1 else 0) then some joined else none

end QueryShell.Connection
