import SqlFrontEnd.Number.Decimal

/-!
# Dates and times

A timestamp is a date, or a date with a time, and the time may say how far it is from universal
time.

* `Timestamp`: the timestamps.
* `Timestamp.read?`: the timestamp that a text writes.
* `Timestamp.isSpelling`: the spellings that a plain text may have to be one; with a time, months
  and days may have one digit, and without one they have two.
* `Timestamp.check`: whether the parts are within their bounds.
* `Timestamp.same`: whether two timestamps are the same moment.
* `Timestamp.shown`: a timestamp as messages show it.
-/

namespace SqlFrontEnd.Yaml

/-- A time of day. -/
structure TimeOfDay where
  hour : Nat
  minute : Nat
  second : Nat
  microsecond : Nat
  /-- How far it is ahead of universal time, in minutes, if that is known. -/
  offset : Option Int
deriving DecidableEq, Repr

/-- A date, or a date with a time. -/
structure Timestamp where
  year : Nat
  month : Nat
  day : Nat
  time : Option TimeOfDay
deriving DecidableEq, Repr

/-- A span of minutes as messages show it: in days and seconds, the seconds never below zero. -/
def shownSpan (minutes : Int) : String :=
  let days := Int.fdiv minutes 1440
  let seconds := 60 * Int.fmod minutes 1440
  let parts := (if days = 0 then [] else ["days=" ++ Decimal.integerText days]) ++
    (if seconds = 0 then [] else ["seconds=" ++ Decimal.integerText seconds])
  let inner := if parts.isEmpty then "0" else String.intercalate ", " parts
  "datetime.timedelta(" ++ inner ++ ")"

/-- Which part of a timestamp is out of its bounds. -/
inductive TimestampFault where
  /-- The distance from universal time, in minutes. -/
  | offset (minutes : Int)
  | year (n : Nat)
  | month
  | day
  | hour
  | minute
  | second
deriving DecidableEq, Repr

namespace TimestampFault

/-- The wording of a fault. -/
def message : TimestampFault → String
  | offset minutes =>
    "offset must be a timedelta strictly between -timedelta(hours=24) and " ++
      "timedelta(hours=24), not " ++ shownSpan minutes ++ "."
  | year n => "year " ++ Decimal.text n ++ " is out of range"
  | month => "month must be in 1..12"
  | day => "day is out of range for month"
  | hour => "hour must be in 0..23"
  | minute => "minute must be in 0..59"
  | second => "second must be in 0..59"

end TimestampFault

namespace Timestamp

/-! ## Reading -/

/-- Reads a number of at least and at most so many digits. -/
def number? (least most : Nat) (s : List Char) : Option (Nat × List Char) :=
  let ds := (s.take most).takeWhile Decimal.isDigit
  if ds.length < least then none else some (Decimal.value ds, s.drop ds.length)

/-- Reads a given character. -/
def character? (c : Char) : List Char → Option (List Char)
  | [] => none
  | d :: s => if c = d then some s else none

/-- Tests for a space or a tab. -/
def isGap (c : Char) : Bool := c == ' ' || c == '\t'

/-- The distance from universal time that ends a text, in minutes: hours, and minutes behind a
colon. -/
def distance? (s : List Char) : Option Nat := do
  let (hours, s) ← number? 1 2 s
  if s.isEmpty then return 60 * hours
  else do
    let (minutes, s) ← (character? ':' s).bind (number? 2 2)
    if s.isEmpty then return 60 * hours + minutes else none

/-- The offset from universal time that may end a timestamp. -/
def offset? (s : List Char) : Option (Option Int) :=
  match s.dropWhile isGap with
  | [] => if s.isEmpty then some none else none
  | ['Z'] => some (some 0)
  | '+' :: s => (distance? s).map fun n => some (Int.ofNat n)
  | '-' :: s => (distance? s).map fun n => some (-(Int.ofNat n))
  | _ => none

/-- The microseconds that the digits of a fraction of a second denote. -/
def microseconds (ds : List Char) : Nat := Decimal.value ((ds ++ List.replicate 6 '0').take 6)

/-- Reads the time after a date, to the end. -/
def time? (s : List Char) : Option TimeOfDay := do
  let s ←
    match s with
    | 'T' :: s | 't' :: s => some s
    | c :: s => if isGap c then some (s.dropWhile isGap) else none
    | [] => none
  let (hour, s) ← number? 1 2 s
  let (minute, s) ← (character? ':' s).bind (number? 2 2)
  let (second, s) ← (character? ':' s).bind (number? 2 2)
  let (fraction, s) := match s with
    | '.' :: s => (s.takeWhile Decimal.isDigit, s.dropWhile Decimal.isDigit)
    | _ => ([], s)
  let offset ← offset? s
  return ⟨hour, minute, second, microseconds fraction, offset⟩

/-- The timestamp that a text writes. -/
def read? (text : List Char) : Option Timestamp := do
  let (year, s) ← number? 4 4 text
  let (month, s) ← (character? '-' s).bind (number? 1 2)
  let (day, s) ← (character? '-' s).bind (number? 1 2)
  if s.isEmpty then return ⟨year, month, day, none⟩
  else do
    let time ← time? s
    return ⟨year, month, day, some time⟩

/-- Tests for the spelling of a timestamp. -/
def isSpelling (text : List Char) : Bool :=
  match read? text with
  | none => false
  | some t => t.time.isSome || text.length == 10

/-! ## Bounds -/

/-- The number of days of a month. -/
def daysIn (year month : Nat) : Nat :=
  if month = 2 then
    if year % 4 = 0 ∧ (year % 100 ≠ 0 ∨ year % 400 = 0) then 29 else 28
  else if month = 4 ∨ month = 6 ∨ month = 9 ∨ month = 11 then 30
  else 31

/-- The first part of a date that is out of its bounds. -/
def checkDate (t : Timestamp) : Except TimestampFault Unit :=
  if t.year = 0 then .error (.year t.year)
  else if t.month = 0 ∨ 12 < t.month then .error .month
  else if t.day = 0 ∨ daysIn t.year t.month < t.day then .error .day
  else .ok ()

/-- The first part of a time that is out of its bounds. -/
def checkTime (time : TimeOfDay) : Except TimestampFault Unit :=
  if 23 < time.hour then .error .hour
  else if 59 < time.minute then .error .minute
  else if 59 < time.second then .error .second
  else .ok ()

/-- An offset from universal time is less than a day. -/
def checkOffset (time : TimeOfDay) : Except TimestampFault Unit :=
  match time.offset with
  | none => .ok ()
  | some minutes => if 1440 ≤ minutes.natAbs then .error (.offset minutes) else .ok ()

/-- The first part that is out of its bounds, the offset before all others. -/
def check (t : Timestamp) : Except TimestampFault Unit := do
  t.time.forM checkOffset
  t.checkDate
  t.time.forM checkTime

/-! ## Moments -/

/-- The number of days from the beginning of the first year to the end of a date. -/
def ordinal (t : Timestamp) : Nat :=
  let years := t.year - 1
  let months := (List.range (t.month - 1)).foldl (fun n m => n + daysIn t.year (m + 1)) 0
  365 * years + years / 4 - years / 100 + years / 400 + months + t.day

/-- The minute of universal time at which a timestamp lies, from the first year on. -/
def universalMinute (t : Timestamp) (time : TimeOfDay) (offset : Int) : Int :=
  1440 * t.ordinal + 60 * time.hour + time.minute - offset

/-- Tests for the same moment.  A date is no moment of its day, and a time without an offset is
never the same as one with an offset. -/
def same (t u : Timestamp) : Bool :=
  match t.time, u.time with
  | some a, some b =>
    match a.offset, b.offset with
    | some o, some p =>
      t.universalMinute a o == u.universalMinute b p && a.second == b.second &&
        a.microsecond == b.microsecond
    | _, _ => t == u
  | _, _ => t == u

/-! ## Showing -/

/-- The parts of a time as messages show them: seconds and microseconds only where they are not
zero. -/
def shownTime (time : TimeOfDay) : List String :=
  let clock := [time.hour, time.minute] ++
    (if time.microsecond = 0 then if time.second = 0 then [] else [time.second]
     else [time.second, time.microsecond])
  let zone (minutes : Int) : String :=
    "tzinfo=datetime.timezone" ++
      if minutes = 0 then ".utc" else "(" ++ shownSpan minutes ++ ")"
  clock.map Decimal.text ++ (time.offset.map zone).toList

/-- A timestamp as messages show it. -/
def shown (t : Timestamp) : String :=
  let date := [t.year, t.month, t.day].map Decimal.text
  match t.time with
  | none => "datetime.date(" ++ String.intercalate ", " date ++ ")"
  | some time => "datetime.datetime(" ++ String.intercalate ", " (date ++ shownTime time) ++ ")"

end Timestamp

end SqlFrontEnd.Yaml
