import StatelessSession.Text.Decimal

/-!
# Points of time

A `Timestamp` is a date of the proleptic Gregorian calendar and a time of day to the nanosecond,
without a zone. A leap second is second 59 with a thousand million nanoseconds or more; it is
written as second 60. `Timestamp.body` is the form in an SQL literal and `Timestamp.shown` that in
a message: they differ in what stands between date and time, and in when a fraction is written.
-/

namespace StatelessSession

namespace Timestamp

/-! ## 1. The calendar -/

/-- Whether a year has a 29 February. -/
def isLeapYear (year : Int) : Bool :=
  (year % 4 == 0 && year % 100 != 0) || year % 400 == 0

/-- The number of days of a month, `0` if there is no such month. -/
def daysInMonth (year : Int) (month : Nat) : Nat :=
  match month with
  | 1 | 3 | 5 | 7 | 8 | 10 | 12 => 31
  | 4 | 6 | 9 | 11 => 30
  | 2 => if isLeapYear year then 29 else 28
  | _ => 0

/-- Whether the numbers name a date between the years -262143 and 262142. -/
def isDate (year : Int) (month day : Nat) : Bool :=
  -262143 ≤ year && year ≤ 262142 && 1 ≤ day && day ≤ daysInMonth year month

/-- Whether the numbers name a time of day. Only second 59 can be followed by a leap second. -/
def isTime (hour minute second nano : Nat) : Bool :=
  hour < 24 && minute < 60 && second < 60 &&
    (nano < 1000000000 || (second == 59 && nano < 2000000000))

end Timestamp

/-- A date and a time of day. -/
structure Timestamp where
  year : Int
  month : Nat
  day : Nat
  hour : Nat
  minute : Nat
  second : Nat
  nano : Nat
  dateValid : Timestamp.isDate year month day = true
  timeValid : Timestamp.isTime hour minute second nano = true
deriving DecidableEq, Repr

namespace Timestamp

/-- The timestamp with the given fields, if there is one. -/
def ofFields? (year : Int) (month day hour minute second nano : Nat) : Option Timestamp :=
  if hd : isDate year month day = true then
    if ht : isTime hour minute second nano = true then
      some ⟨year, month, day, hour, minute, second, nano, hd, ht⟩
    else none
  else none

/-! ## 2. Parts of the text -/

/-- A year: four digits, or with a sign if it lies outside `0` to `9999`. -/
def yearText (year : Int) : List Char :=
  match year with
  | .ofNat n => if n ≤ 9999 then Text.paddedDigits 4 n else '+' :: Text.digits n
  | .negSucc n => '-' :: Text.paddedDigits 4 (n + 1)

/-- The second that is written, sixty for a leap second. -/
def writtenSecond (t : Timestamp) : Nat := if t.nano < 1000000000 then t.second else t.second + 1

/-- The nanoseconds within the written second. -/
def writtenNano (t : Timestamp) : Nat := t.nano % 1000000000

/-- Year, month and day. -/
def dateText (t : Timestamp) : List Char :=
  yearText t.year ++ '-' :: Text.paddedDigits 2 t.month ++ '-' :: Text.paddedDigits 2 t.day

/-- Hour, minute and second. -/
def clockText (t : Timestamp) : List Char :=
  Text.paddedDigits 2 t.hour ++ ':' :: Text.paddedDigits 2 t.minute ++
    ':' :: Text.paddedDigits 2 t.writtenSecond

/-! ## 3. The two forms -/

/-- The text between the quotes of an SQL literal: nine places, or none for a whole second that is
    no leap second. -/
def body (t : Timestamp) : List Char :=
  t.dateText ++ ' ' :: t.clockText ++
    if t.nano = 0 then [] else '.' :: Text.paddedDigits 9 t.writtenNano

/-- The fraction in a message: as many groups of three places as it takes. -/
def shownFraction (nano : Nat) : List Char :=
  if nano = 0 then []
  else if nano % 1000000 = 0 then '.' :: Text.paddedDigits 3 (nano / 1000000)
  else if nano % 1000 = 0 then '.' :: Text.paddedDigits 6 (nano / 1000)
  else '.' :: Text.paddedDigits 9 nano

/-- A timestamp in a message. -/
def shown (t : Timestamp) : String :=
  String.ofList (t.dateText ++ 'T' :: t.clockText ++ shownFraction t.writtenNano)

end Timestamp

end StatelessSession
