import DumpLens.Text.Basic

/-! Dates and times of day, and how they are written. -/

namespace DumpLens.Toml

/-- A day of the calendar. -/
structure Date where
  year : Nat
  month : Nat
  day : Nat
  deriving DecidableEq, Repr

structure Time where
  hour : Nat
  minute : Nat
  second : Nat
  microsecond : Nat
  deriving DecidableEq, Repr

/-- A time on a day, with the minutes that its zone is ahead of universal time if it
has a zone. -/
structure DateTime where
  date : Date
  time : Time
  zone : Option Int
  deriving DecidableEq, Repr

/-! ## The calendar -/

def isLeapYear (year : Nat) : Bool :=
  year % 4 == 0 && (year % 100 != 0 || year % 400 == 0)

def daysOfMonth (year month : Nat) : Nat :=
  if month = 2 then (if isLeapYear year then 29 else 28)
  else if month ∈ [4, 6, 9, 11] then 30
  else 31

/-- Years start at one, and days end with the month. -/
def Date.isValid (date : Date) : Bool :=
  1 ≤ date.year && 1 ≤ date.month && date.month ≤ 12 && 1 ≤ date.day &&
    date.day ≤ daysOfMonth date.year date.month

example : Date.isValid ⟨2024, 2, 29⟩ && !Date.isValid ⟨1900, 2, 29⟩ := by decide

/-! ## Plain texts -/

/-- A number with leading zeros up to a width. -/
def padded (width number : Nat) : Text :=
  (Text.ofNat number).leftpad width '0'

/-- A date as `YYYY-MM-DD`. -/
def Date.text (date : Date) : Text :=
  padded 4 date.year ++ '-' :: padded 2 date.month ++ '-' :: padded 2 date.day

/-- A time as `HH:MM:SS`, with the microseconds if there are any. -/
def Time.text (time : Time) : Text :=
  padded 2 time.hour ++ ':' :: padded 2 time.minute ++ ':' :: padded 2 time.second ++
    (if time.microsecond = 0 then [] else '.' :: padded 6 time.microsecond)

/-- A zone as a sign, hours and minutes. -/
def zoneText (minutes : Int) : Text :=
  (if minutes < 0 then '-' else '+') ::
    (padded 2 (minutes.natAbs / 60) ++ ':' :: padded 2 (minutes.natAbs % 60))

/-- A date and a time with a blank between them, and the zone if there is one. -/
def DateTime.text (moment : DateTime) : Text :=
  moment.date.text ++ ' ' :: moment.time.text ++
    match moment.zone with
    | some minutes => zoneText minutes
    | none => []

/-! ## Constructor texts -/

/-- Texts with a comma and a blank between neighbours. -/
def commaSeparated (texts : List Text) : Text :=
  [',', ' '].intercalate texts

def Date.fields (date : Date) : List Text :=
  [Text.ofNat date.year, Text.ofNat date.month, Text.ofNat date.day]

/-- The numbers of a time. Seconds and microseconds are left out from the end as
long as they are zero. -/
def Time.fields (time : Time) : List Text :=
  [Text.ofNat time.hour, Text.ofNat time.minute] ++
    (if time.microsecond ≠ 0 then [Text.ofNat time.second, Text.ofNat time.microsecond]
      else if time.second ≠ 0 then [Text.ofNat time.second]
      else [])

def Date.constructorText (date : Date) : Text :=
  "datetime.date(".toList ++ commaSeparated date.fields ++ [')']

def Time.constructorText (time : Time) : Text :=
  "datetime.time(".toList ++ commaSeparated time.fields ++ [')']

/-- A zone as a difference to universal time. Behind universal time the difference is
a day back and some seconds forward. -/
def zoneConstructorText (minutes : Int) : Text :=
  if minutes = 0 then "datetime.timezone.utc".toList
  else
    let difference :=
      if minutes < 0 then
        "days=-1, seconds=".toList ++ Text.ofInt (86400 + 60 * minutes)
      else "seconds=".toList ++ Text.ofInt (60 * minutes)
    "datetime.timezone(datetime.timedelta(".toList ++ difference ++ "))".toList

def DateTime.constructorText (moment : DateTime) : Text :=
  let zone := match moment.zone with
    | some minutes => ["tzinfo=".toList ++ zoneConstructorText minutes]
    | none => []
  "datetime.datetime(".toList ++
    commaSeparated (moment.date.fields ++ moment.time.fields ++ zone) ++ [')']

end DumpLens.Toml
