import QueryTemplates.Text.Numeral

/-! # Dates and times

Calendar dates, and dates with a time of day and perhaps an offset from universal time, with their
standard texts. A fraction of a second is written only where there is one, with six digits; an offset is
written with seconds only where it has some.
-/

namespace QueryTemplates

/-- A day of the calendar. -/
structure Date where
  year : Nat
  month : Nat
  day : Nat
deriving DecidableEq

/-- A day and a time, and by how many seconds that time is ahead of universal time, if that is known. -/
structure DateTime where
  date : Date
  hour : Nat
  minute : Nat
  second : Nat
  microsecond : Nat
  offset : Option Int
deriving DecidableEq

/-- The date with its parts between hyphens. -/
def Date.iso (date : Date) : Text :=
  Numeral.padded 4 date.year ++ '-' :: Numeral.padded 2 date.month ++
    '-' :: Numeral.padded 2 date.day

/-- The number of days from a fixed day to a date; years are counted from March. -/
def Date.dayNumber (date : Date) : Nat :=
  let year := if date.month ≤ 2 then date.year - 1 else date.year
  let month := (date.month + 9) % 12
  365 * year + year / 4 - year / 100 + year / 400 + (153 * month + 2) / 5 + date.day

namespace DateTime

/-- The time of day, to the second or to the microsecond. -/
def timeText (time : DateTime) : Text :=
  Numeral.padded 2 time.hour ++ ':' :: Numeral.padded 2 time.minute ++
    ':' :: Numeral.padded 2 time.second ++
    if time.microsecond = 0 then [] else '.' :: Numeral.padded 6 time.microsecond

/-- The offset after its sign, in hours and minutes, and in seconds if there are any. -/
def offsetText (offset : Int) : Text :=
  let seconds := offset.natAbs
  (if offset < 0 then '-' else '+') :: Numeral.padded 2 (seconds / 3600) ++
    ':' :: Numeral.padded 2 (seconds / 60 % 60) ++
    if seconds % 60 = 0 then [] else ':' :: Numeral.padded 2 (seconds % 60)

/-- The date and the time with a separator between them, and the offset. -/
def textWith (separator : Char) (time : DateTime) : Text :=
  time.date.iso ++ separator :: time.timeText ++ (time.offset.map offsetText).getD []

/-- The standard text, with the letter T. -/
def iso (time : DateTime) : Text := time.textWith 'T'

/-- The text with a space between date and time. -/
def spaced (time : DateTime) : Text := time.textWith ' '

/-- The microseconds from a fixed day to the time, taken at its offset. -/
def instant (time : DateTime) : Int :=
  (((time.date.dayNumber * 24 + time.hour) * 60 + time.minute) * 60 + time.second
    - time.offset.getD 0) * 1000000 + time.microsecond

/-- The same moment. A time without an offset is the same only as another without. -/
def sameMoment (first second : DateTime) : Bool :=
  first.offset.isSome == second.offset.isSome && first.instant == second.instant

end DateTime

end QueryTemplates
