import DiagnosticRepair.Text.DecimalDigit
import DiagnosticRepair.Text.Quoted

namespace DiagnosticRepair

structure Date where
  year : Nat
  month : Nat
  day : Nat
  deriving DecidableEq, Repr

structure Clock where
  hour : Nat
  minute : Nat
  second : Nat
  microsecond : Nat
  deriving DecidableEq, Repr

structure Moment where
  date : Date
  clock : Clock
  offset : Option Int
  deriving DecidableEq, Repr

inductive CalendarError where
  | year (year : Nat)
  | month
  | day
  | hour
  | minute
  | second
  | offset (seconds : Int)
  deriving DecidableEq, Repr

namespace Calendar

def padded (width n : Nat) : Text :=
  let digits := Text.ofNat n
  List.replicate (width - digits.length) '0' ++ digits

def secondsPerDay : Nat := 86400

def spanText (seconds : Int) : Text :=
  let days := seconds.fdiv secondsPerDay
  let rest := seconds.fmod secondsPerDay
  let parts :=
    (if days = 0 then [] else ["days=" ++ Text.ofInt days])
      ++ (if rest = 0 then [] else ["seconds=" ++ Text.ofInt rest])
  "datetime.timedelta(" ++ (if parts.isEmpty then ['0'] else Text.join ", " parts) ++ ")"

def isLeap (year : Nat) : Bool :=
  year % 4 = 0 && (year % 100 ≠ 0 || year % 400 = 0)

def daysInMonth (year month : Nat) : Nat :=
  if month = 2 then if isLeap year then 29 else 28
  else if [4, 6, 9, 11].contains month then 30
  else 31

end Calendar

namespace CalendarError

def message : CalendarError → Text
  | .year n => "year " ++ Text.ofNat n ++ " is out of range"
  | .month => "month must be in 1..12"
  | .day => "day is out of range for month"
  | .hour => "hour must be in 0..23"
  | .minute => "minute must be in 0..59"
  | .second => "second must be in 0..59"
  | .offset seconds =>
      "offset must be a timedelta strictly between -timedelta(hours=24) and timedelta(hours=24), not "
        ++ Calendar.spanText seconds ++ "."

end CalendarError

namespace Date

def check (date : Date) : Except CalendarError Unit :=
  if date.year < 1 || 9999 < date.year then .error (.year date.year)
  else if date.month < 1 || 12 < date.month then .error .month
  else if date.day < 1 || Calendar.daysInMonth date.year date.month < date.day then .error .day
  else .ok ()

def text (date : Date) : Text :=
  Text.join ['-']
    [Calendar.padded 4 date.year, Calendar.padded 2 date.month, Calendar.padded 2 date.day]

def numbers (date : Date) : List Nat :=
  [date.year, date.month, date.day]

end Date

namespace Moment

def check (moment : Moment) : Except CalendarError Unit := do
  if moment.offset.any fun seconds => Calendar.secondsPerDay ≤ seconds.natAbs then
    .error (.offset (moment.offset.getD 0))
  moment.date.check
  if 23 < moment.clock.hour then .error .hour
  if 59 < moment.clock.minute then .error .minute
  if 59 < moment.clock.second then .error .second

def offsetText (seconds : Int) : Text :=
  let minutes := seconds.natAbs / 60
  (if seconds < 0 then '-' else '+') :: Calendar.padded 2 (minutes / 60) ++ ":"
    ++ Calendar.padded 2 (minutes % 60)

def text (moment : Moment) : Text :=
  let clock := moment.clock
  moment.date.text ++ " "
    ++ Text.join [':']
        [Calendar.padded 2 clock.hour, Calendar.padded 2 clock.minute, Calendar.padded 2 clock.second]
    ++ (if clock.microsecond = 0 then [] else '.' :: Calendar.padded 6 clock.microsecond)
    ++ (moment.offset.map offsetText).getD []

def numbers (moment : Moment) : List Nat :=
  let clock := moment.clock
  moment.date.numbers ++ [clock.hour, clock.minute]
    ++ (if clock.second = 0 && clock.microsecond = 0 then [] else [clock.second])
    ++ (if clock.microsecond = 0 then [] else [clock.microsecond])

def zoneText (seconds : Int) : Text :=
  if seconds = 0 then "tzinfo=datetime.timezone.utc"
  else "tzinfo=datetime.timezone(" ++ Calendar.spanText seconds ++ ")"

end Moment

end DiagnosticRepair
