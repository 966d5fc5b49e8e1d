import CodeMetrics.Number.Layout

/-!
# Dates and times

What a settings file can say about time: a day of the calendar, a time of day, or both together, perhaps with the
offset of a time zone. Years run from 1 to 9999 and seconds are divided into millionths. `Moment.text` is the plain
form of a moment and `Moment.inner` the form it has inside another value.
-/

namespace CodeMetrics

open Number

/-! ## The calendar -/

def isLeapYear (year : Nat) : Bool := (year % 4 == 0 && year % 100 != 0) || year % 400 == 0

def daysInMonth (year month : Nat) : Nat :=
  if month = 2 then if isLeapYear year then 29 else 28
  else if month = 4 ∨ month = 6 ∨ month = 9 ∨ month = 11 then 30
  else 31

theorem daysInMonth_le (year month : Nat) : daysInMonth year month ≤ 31 := by
  unfold daysInMonth
  repeat' split
  all_goals decide

/-- A day of the calendar. -/
structure Day where
  year : Nat
  month : Nat
  day : Nat
  deriving DecidableEq, Repr

/-- Whether there is such a day. -/
def Day.isValid (d : Day) : Bool :=
  decide (1 ≤ d.year) && decide (1 ≤ d.month) && decide (d.month ≤ 12) && decide (1 ≤ d.day)
    && decide (d.day ≤ daysInMonth d.year d.month)

/-- A time of day. -/
structure Clock where
  hour : Nat
  minute : Nat
  second : Nat
  /-- Millionths of a second. -/
  micro : Nat
  deriving DecidableEq, Repr

/-- What a settings file can say about time. -/
inductive Moment where
  | day (d : Day)
  | clock (c : Clock)
  /-- A time of a day; the offset from universal time, if it is known, counts minutes. -/
  | both (d : Day) (c : Clock) (offset : Option Int)
  deriving DecidableEq, Repr

/-! ## Text -/

/-- A number with zeros in front, of the given width. -/
def zeroPadded (width n : Nat) : String := String.ofList (padLeft width (natText n).toList)

def Day.text (d : Day) : String := zeroPadded 4 d.year ++ "-" ++ zeroPadded 2 d.month ++ "-" ++ zeroPadded 2 d.day

/-- Millionths are left out if there are none. -/
def Clock.text (c : Clock) : String :=
  zeroPadded 2 c.hour ++ ":" ++ zeroPadded 2 c.minute ++ ":" ++ zeroPadded 2 c.second
    ++ (if c.micro = 0 then "" else "." ++ zeroPadded 6 c.micro)

/-- An offset as a signed time. -/
def offsetText (minutes : Int) : String :=
  (if minutes < 0 then "-" else "+") ++ zeroPadded 2 (minutes.natAbs / 60) ++ ":" ++ zeroPadded 2 (minutes.natAbs % 60)

/-- The numbers of a time of day, without the millionths if there are none and then without the seconds. -/
def Clock.parts (c : Clock) : List Nat :=
  if c.micro ≠ 0 then [c.hour, c.minute, c.second, c.micro]
  else if c.second ≠ 0 then [c.hour, c.minute, c.second]
  else [c.hour, c.minute]

def Day.parts (d : Day) : List Nat := [d.year, d.month, d.day]

def partsText (parts : List Nat) : String := String.intercalate ", " (parts.map natText)

/-- A time zone inside a value. A negative offset is a day back and seconds forward. -/
def zoneText (minutes : Int) : String :=
  if minutes = 0 then "datetime.timezone.utc"
  else
    let length :=
      if minutes < 0 then "days=-1, seconds=" ++ intText (86400 + 60 * minutes)
      else "seconds=" ++ intText (60 * minutes)
    "datetime.timezone(datetime.timedelta(" ++ length ++ "))"

namespace Moment

/-- Whether the day of a moment, if it has one, is in the calendar. -/
def isValid : Moment → Bool
  | day d => d.isValid
  | clock _ => true
  | both d _ _ => d.isValid

/-- The kind of a moment, as messages name it. -/
def kindName : Moment → String
  | day _ => "datetime.date"
  | clock _ => "datetime.time"
  | both .. => "datetime.datetime"

def text : Moment → String
  | day d => d.text
  | clock c => c.text
  | both d c offset => d.text ++ " " ++ c.text ++ (offset.map offsetText).getD ""

/-- A moment inside another value. -/
def inner (m : Moment) : String :=
  let arguments := match m with
    | day d => partsText d.parts
    | clock c => partsText c.parts
    | both d c offset =>
      partsText (d.parts ++ c.parts) ++ (match offset with | some o => ", tzinfo=" ++ zoneText o | none => "")
  m.kindName ++ "(" ++ arguments ++ ")"

end Moment

end CodeMetrics
