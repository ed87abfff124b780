import QueryShell.Text.HostChars

namespace QueryShell.Text

inductive Direction where
  | leftToRight
  | rightToLeft
  | digit
  | arabicDigit
  | mark
  | neutral
  deriving DecidableEq, Repr

namespace Direction

def arabicDigitRanges : Array Range := Range.ofLines ["660-669 10d30-10d39"]

def digitRanges : Array Range := Range.ofLines ["30-39 6f0-6f9"]

def neutralRanges : Array Range := Range.ofLines
  ["2d b7 2b9-2ba 2c6-2cf 2ec 375 200c-200d 2e2f 30fb a67f a717-a71f a788"]

def rightToLeftRanges : Array Range := Range.ofLines ["5d0-8c9 fe73 10800-10ff6 1e800-1e959"]

def ofChar (c : Char) : Direction :=
  let isOf (ranges : Array Range) : Bool := inRanges ranges c.toNat
  if isNonspacing c then .mark
  else if isOf arabicDigitRanges then .arabicDigit
  else if isOf digitRanges then .digit
  else if isOf neutralRanges then .neutral
  else if isOf rightToLeftRanges then .rightToLeft
  else .leftToRight

def mayEnd : Direction → Bool
  | rightToLeft | digit | arabicDigit => true
  | leftToRight | mark | neutral => false

end Direction

end QueryShell.Text
