/-!
# Civil time

Moments count microseconds from the start of the year 1, in Coordinated Universal
Time; a civil time is the same moment in the fields of the Gregorian calendar.
Both directions are plain sums over years, months and days.
-/

namespace StageGraph

/-- A point in time: microseconds since the first of January of the year 1. -/
structure Moment where
  micros : Nat
  deriving DecidableEq, Repr, Inhabited

/-- The fields of the Gregorian calendar and of the clock. -/
structure Civil where
  year : Nat
  month : Nat
  day : Nat
  hour : Nat := 0
  minute : Nat := 0
  second : Nat := 0
  micro : Nat := 0
  deriving DecidableEq, Repr, Inhabited

namespace Civil

def isLeap (year : Nat) : Bool :=
  year % 4 = 0 && (year % 100 ≠ 0 || year % 400 = 0)

/-- The lengths of the months of a year. -/
def monthLengths (year : Nat) : List Nat :=
  [31, if isLeap year then 29 else 28, 31, 30, 31, 30, 31, 31, 30, 31, 30, 31]

/-- The length of a month; zero for what is no month. -/
def daysInMonth (year month : Nat) : Nat :=
  if month = 0 then 0 else (monthLengths year)[month - 1]?.getD 0

/-- The days from the start of the calendar to the start of a year. -/
def daysBeforeYear (year : Nat) : Nat :=
  let past := year - 1
  past * 365 + past / 4 - past / 100 + past / 400

/-- The days from the start of a year to the start of a month. -/
def daysBeforeMonth (year month : Nat) : Nat :=
  ((monthLengths year).take (month - 1)).foldl (fun days length => days + length) 0

/-- The number of a day, counted from the first of January of the year 1. -/
def dayNumber (year month day : Nat) : Nat :=
  daysBeforeYear year + daysBeforeMonth year month + (day - 1)

/-- Whether the fields name a day of the years 1 to 9999. -/
def isDate (year month day : Nat) : Bool :=
  1 ≤ year && year ≤ 9999 && 1 ≤ day && day ≤ daysInMonth year month

/-- The year of a day number.  The mean length of years is off by less than one year. -/
def yearOf (number : Nat) : Nat :=
  let guess := number * 400 / 146097 + 1
  if number < daysBeforeYear guess then guess - 1
  else if daysBeforeYear (guess + 1) ≤ number then guess + 1
  else guess

/-- The month and the day of a day of the year, counted from zero, from the lengths of the
months from `month` on. -/
def monthAndDay (month : Nat) : List Nat → Nat → Nat × Nat
  | [], rest => (month, rest + 1)
  | length :: lengths, rest =>
    if rest < length then (month, rest + 1) else monthAndDay (month + 1) lengths (rest - length)

def microsPerSecond : Nat := 1000000

def microsPerDay : Nat := 86400 * microsPerSecond

def leapYearMicros : Nat := 366 * microsPerDay

/-- The microseconds since the start of the calendar. -/
def micros (civil : Civil) : Nat :=
  dayNumber civil.year civil.month civil.day * microsPerDay +
    ((civil.hour * 60 + civil.minute) * 60 + civil.second) * microsPerSecond + civil.micro

end Civil

namespace Moment

/-- The first moment after the year 9999. -/
def limit : Nat :=
  Civil.daysBeforeYear 10000 * Civil.microsPerDay

/-- The moment at which the count of seconds of other clocks starts. -/
def epoch : Nat :=
  Civil.daysBeforeYear 1970 * Civil.microsPerDay

/-- The moment at so many microseconds, unless it falls outside the calendar. -/
def ofMicros? (micros : Int) : Option Moment :=
  if 0 ≤ micros ∧ micros < limit then some { micros := micros.toNat } else none

/-- The moment at which clocks that are `offset` microseconds ahead show a civil time. -/
def ofCivil? (civil : Civil) (offset : Int) : Option Moment :=
  ofMicros? (civil.micros - offset)

/-- The calendar fields of a moment. -/
def civil (moment : Moment) : Civil :=
  let number := moment.micros / Civil.microsPerDay
  let year := Civil.yearOf number
  let (month, day) :=
    Civil.monthAndDay 1 (Civil.monthLengths year) (number - Civil.daysBeforeYear year)
  let rest := moment.micros % Civil.microsPerDay
  let seconds := rest / Civil.microsPerSecond
  { year := year
    month := month
    day := day
    hour := seconds / 3600
    minute := seconds / 60 % 60
    second := seconds % 60
    micro := rest % Civil.microsPerSecond }

end Moment

namespace Civil

/-- The number of years after which the calendar repeats. -/
def cycleYears : Nat := 400

/-- The calendar fields so many microseconds after the start of the year 1, or before it in the
year 0: the fields one cycle later, with the year set back. -/
def ofMicros (micros : Int) : Civil :=
  let cycle : Nat := daysBeforeYear (cycleYears + 1) * microsPerDay
  let later : Moment := { micros := (micros + cycle).toNat }
  { later.civil with year := later.civil.year - cycleYears }

end Civil

end StageGraph
