import Preflight.Number.Double

namespace Preflight

structure Date where
  year : Nat
  month : Nat
  day : Nat
  deriving DecidableEq, Repr, Inhabited

structure Moment where
  date : Date
  hour : Nat
  minute : Nat
  second : Nat
  micro : Nat := 0
  offset : Option Int := none
  deriving DecidableEq, Repr, Inhabited

namespace Calendar

inductive Flaw where
  | year (n : Nat)
  | month
  | day
  | hour
  | minute
  | second
  | offset (minutes : Int)
  deriving DecidableEq, Repr

def isLeap (year : Nat) : Bool := year % 4 == 0 && (year % 100 != 0 || year % 400 == 0)

def monthLengths (year : Nat) : List Nat := [31, if isLeap year then 29 else 28, 31, 30, 31, 30, 31, 31, 30, 31, 30, 31]

def minutesOfDay : Nat := 1440
def microsOfMinute : Nat := 60000000

def padded (width n : Nat) : String :=
  let ds := Nat.toDigits 10 n
  String.ofList (List.replicate (width - ds.length) '0' ++ ds)

def spanText (minutes : Int) : String :=
  let days := Int.fdiv minutes minutesOfDay
  let seconds := 60 * Int.fmod minutes minutesOfDay
  let parts := (if days = 0 then [] else [s!"days={days}"]) ++ (if seconds = 0 then [] else [s!"seconds={seconds}"])
  if parts.isEmpty then "datetime.timedelta(0)"
  else "datetime.timedelta(" ++ String.intercalate ", " parts ++ ")"

def Flaw.message : Flaw → String
  | year n => s!"year {n} is out of range"
  | month => "month must be in 1..12"
  | day => "day is out of range for month"
  | hour => "hour must be in 0..23"
  | minute => "minute must be in 0..59"
  | second => "second must be in 0..59"
  | offset minutes =>
    "offset must be a timedelta strictly between -timedelta(hours=24) and timedelta(hours=24), not " ++
      spanText minutes ++ "."

end Calendar

namespace Date

open Calendar

def ofNumbers (year month day : Nat) : Except Flaw Date :=
  if year < 1 ∨ 9999 < year then .error (.year year)
  else if month < 1 ∨ 12 < month then .error .month
  else if day < 1 ∨ (monthLengths year).getD (month - 1) 0 < day then .error .day
  else .ok ⟨year, month, day⟩

def ordinal (d : Date) : Nat :=
  let y := d.year - 1
  365 * y + y / 4 - y / 100 + y / 400 + ((monthLengths d.year).take (d.month - 1)).foldl (· + ·) 0 + d.day

def inYear (year : Nat) : Nat → List Nat → Nat → Date
  | month, [], day => ⟨year, month, day⟩
  | month, length :: rest, day => if day ≤ length then ⟨year, month, day⟩ else inYear year (month + 1) rest (day - length)

def ofOrdinal (n : Nat) : Date :=
  let year := (n - 1) * 400 / 146097 + 1
  let start (year : Nat) : Nat := ordinal ⟨year, 1, 1⟩
  let year := if n < start year then year - 1 else if start (year + 1) ≤ n then year + 1 else year
  inYear year 1 (monthLengths year) (n - start year + 1)

def iso (d : Date) : String := s!"{padded 4 d.year}-{padded 2 d.month}-{padded 2 d.day}"

def literal (d : Date) : String := s!"datetime.date({d.year}, {d.month}, {d.day})"

def weekdays : List String := ["Sun", "Mon", "Tue", "Wed", "Thu", "Fri", "Sat"]

def months : List String :=
  ["Jan", "Feb", "Mar", "Apr", "May", "Jun", "Jul", "Aug", "Sep", "Oct", "Nov", "Dec"]

def mailText (d : Date) : String :=
  let weekday := weekdays.getD (d.ordinal % 7) ""
  let month := months.getD (d.month - 1) ""
  s!"{weekday}, {padded 2 d.day} {month} {padded 4 d.year}"

end Date

namespace Moment

open Calendar

def ofNumbers (date : Date) (hour minute second micro : Nat) (offset : Option Int) : Except Flaw Moment :=
  if 23 < hour then .error .hour
  else if 59 < minute then .error .minute
  else if 59 < second then .error .second
  else .ok { date, hour, minute, second, micro, offset }

def checkOffset (minutes : Int) : Except Flaw Int :=
  if minutes.natAbs < minutesOfDay then .ok minutes else .error (.offset minutes)

def atMidnight (date : Date) : Moment := { date, hour := 0, minute := 0, second := 0 }

def clock (m : Moment) : Int :=
  ((m.date.ordinal * minutesOfDay + m.hour * 60 + m.minute) * 60 + m.second) * 1000000 + m.micro

def instant (m : Moment) : Int := m.clock - m.offset.getD 0 * microsOfMinute

def same (a b : Moment) : Bool := a.offset.isSome == b.offset.isSome && a.instant == b.instant

def toUniversal? (m : Moment) : Option Moment :=
  let micros := m.instant
  let seconds := (micros / 1000000).toNat
  let day := seconds / 86400
  if micros < 86400000000 ∨ 3652059 < day then none
  else
    let rest := seconds % 86400
    some { date := Date.ofOrdinal day, hour := rest / 3600, minute := rest / 60 % 60, second := rest % 60
           micro := (micros % 1000000).toNat, offset := some 0 }

def offsetText (minutes : Int) : String :=
  let n := minutes.natAbs
  (if minutes < 0 then "-" else "+") ++ s!"{padded 2 (n / 60)}:{padded 2 (n % 60)}"

def iso (m : Moment) : String :=
  s!"{m.date.iso} {padded 2 m.hour}:{padded 2 m.minute}:{padded 2 m.second}" ++
    (if m.micro = 0 then "" else s!".{padded 6 m.micro}") ++
    (match m.offset with
    | some minutes => offsetText minutes
    | none => "")

def literal (m : Moment) : String :=
  let numbers := [m.date.year, m.date.month, m.date.day, m.hour, m.minute] ++
    (if m.second = 0 ∧ m.micro = 0 then [] else [m.second]) ++ (if m.micro = 0 then [] else [m.micro])
  let zone := match m.offset with
    | none => []
    | some 0 => ["tzinfo=datetime.timezone.utc"]
    | some minutes => [s!"tzinfo=datetime.timezone({spanText minutes})"]
  "datetime.datetime(" ++ String.intercalate ", " (numbers.map toString ++ zone) ++ ")"

def mailText (m : Moment) : String :=
  s!"{m.date.mailText} {padded 2 m.hour}:{padded 2 m.minute}:{padded 2 m.second} GMT"

end Moment

end Preflight
