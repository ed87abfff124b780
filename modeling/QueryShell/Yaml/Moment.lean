import QueryShell.Decimal.Notation
import QueryShell.Yaml.PlainTag
import QueryShell.Yaml.Token

namespace QueryShell.Yaml

structure Date where
  year : Nat
  month : Nat
  day : Nat
  deriving DecidableEq, Repr

structure Time where
  date : Date
  hour : Nat
  minute : Nat
  second : Nat
  microsecond : Nat
  zone : Option Int
  deriving DecidableEq, Repr

def isLeap (year : Nat) : Bool :=
  year % 4 == 0 && (year % 100 != 0 || year % 400 == 0)

def daysIn (year month : Nat) : Nat :=
  if month == 2 then (if isLeap year then 29 else 28)
  else if [4, 6, 9, 11].contains month then 30
  else 31

def Date.dayNumber (d : Date) : Nat :=
  let before := d.year - 1
  let inYear := (List.range (d.month - 1)).foldl (fun days i => days + daysIn d.year (i + 1)) d.day
  365 * before + before / 4 - before / 100 + before / 400 + inYear

def Time.moment (t : Time) (zone : Int) : Int :=
  let minutes : Int := ((t.date.dayNumber * 24 + t.hour) * 60 + t.minute : Nat)
  ((minutes - zone) * 60 + t.second) * 1000000 + t.microsecond

def Time.equal (t u : Time) : Bool :=
  match t.zone, u.zone with
  | some z, some w => t.moment z == u.moment w
  | none, none => t == u
  | _, _ => false

def padded (width n : Nat) : String :=
  let digits := Decimal.digitChars n
  String.ofList (List.replicate (width - digits.length) '0' ++ digits)

def Date.text (d : Date) : String :=
  padded 4 d.year ++ "-" ++ padded 2 d.month ++ "-" ++ padded 2 d.day

def zoneText : Option Int → String
  | none => ""
  | some ahead =>
      let minutes := ahead.natAbs
      (if ahead < 0 then "-" else "+") ++ padded 2 (minutes / 60) ++ ":" ++ padded 2 (minutes % 60)

def Time.text (t : Time) : String :=
  let fraction := if t.microsecond == 0 then "" else "." ++ padded 6 t.microsecond
  t.date.text ++ " " ++ padded 2 t.hour ++ ":" ++ padded 2 t.minute ++ ":" ++ padded 2 t.second ++
    fraction ++ zoneText t.zone

def call (function : String) (arguments : List String) : String :=
  function ++ "(" ++ ", ".intercalate arguments ++ ")"

def Date.numbers (d : Date) : List String :=
  [toString d.year, toString d.month, toString d.day]

def Date.shown (d : Date) : String :=
  call "datetime.date" d.numbers

def spanShown (minutes : Int) : String :=
  let days := minutes.fdiv 1440
  let seconds := 60 * minutes.fmod 1440
  let parts :=
    (if days == 0 then [] else ["days=" ++ toString days]) ++
      (if seconds == 0 then [] else ["seconds=" ++ toString seconds])
  call "datetime.timedelta" (if parts.isEmpty then ["0"] else parts)

def zoneShown (ahead : Int) : String :=
  if ahead == 0 then "datetime.timezone.utc" else call "datetime.timezone" [spanShown ahead]

def Time.shown (t : Time) : String :=
  let seconds :=
    if t.microsecond != 0 then [t.second, t.microsecond]
    else if t.second != 0 then [t.second]
    else []
  call "datetime.datetime" (t.date.numbers ++ ([t.hour, t.minute] ++ seconds).map toString ++
    (t.zone.map fun ahead => "tzinfo=" ++ zoneShown ahead).toList)

def valueFault (message : String) : Defect :=
  .fault (.other "ValueError" message)

def checkDate (d : Date) : Except Defect Unit := do
  if d.year == 0 then throw (valueFault "year 0 is out of range")
  if d.month == 0 || 12 < d.month then throw (valueFault "month must be in 1..12")
  if d.day == 0 || daysIn d.year d.month < d.day then
    throw (valueFault "day is out of range for month")

def checkClock (t : Time) : Except Defect Unit := do
  if 23 < t.hour then throw (valueFault "hour must be in 0..23")
  if 59 < t.minute then throw (valueFault "minute must be in 0..59")
  if 59 < t.second then throw (valueFault "second must be in 0..59")

def checkZone : Option Int → Except Defect Unit
  | none => .ok ()
  | some ahead =>
      if ahead.natAbs < 1440 then .ok ()
      else .error (valueFault ("offset must be a timedelta strictly between " ++
        "-timedelta(hours=24) and timedelta(hours=24), not " ++ spanShown ahead ++ "."))

def microseconds (digits : List Char) : Nat :=
  Text.decimalValue ((digits ++ List.replicate 6 '0').take 6)

end QueryShell.Yaml
