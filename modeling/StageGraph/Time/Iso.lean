import StageGraph.Time.Reader

/-!
# Times in ISO form

The form in which a single time is handed over: a date and, after any one
character, a clock and an offset.  A date is written by month and day or by week
and day of the week, with or without hyphens; a clock with or without colons,
with a fraction or without one.
-/

namespace StageGraph

/-- Why a text is no time in ISO form. -/
inductive IsoFault where
  | malformed (text : String)
  | year (number : Nat)
  | month
  | day
  | hour
  | minute
  | second
  /-- The offset, in microseconds, is a day or longer. -/
  | offset (size : Int)
  deriving DecidableEq, Repr

/-- The text of a length of time: whole days, and what is left over. -/
private def spanText (micros : Int) : String :=
  let rest := micros % Civil.microsPerDay
  let part (name : String) (count : Int) : List String :=
    if count = 0 then [] else [name ++ "=" ++ toString count]
  let parts := part "days" (micros / Civil.microsPerDay) ++
    part "seconds" (rest / Civil.microsPerSecond) ++
    part "microseconds" (rest % Civil.microsPerSecond)
  "datetime.timedelta(" ++ (if parts.isEmpty then "0" else Text.join ", " parts) ++ ")"

/-- The wording of a fault. -/
def IsoFault.message : IsoFault → String
  | .malformed text => "Invalid isoformat string: " ++ Text.Quoted.quote text
  | .year number => "year " ++ toString number ++ " is out of range"
  | .month => "month must be in 1..12"
  | .day => "day is out of range for month"
  | .hour => "hour must be in 0..23"
  | .minute => "minute must be in 0..59"
  | .second => "second must be in 0..59"
  | .offset size =>
    "offset must be a timedelta strictly between -timedelta(hours=24) and " ++
      "timedelta(hours=24), not " ++ spanText size ++ "."

namespace Civil

/-- The number of the Monday with which the first week of a year begins: the week of the fourth
of January. -/
def firstMonday (year : Nat) : Nat :=
  let fourth := daysBeforeYear year + 3
  fourth - fourth % 7

/-- Whether a year has so many weeks.  It has 53 when it starts on a Thursday, or, as a leap
year, on a Wednesday. -/
def hasWeek (year week : Nat) : Bool :=
  let first := daysBeforeYear year % 7
  1 ≤ week && (week ≤ 52 ||
    (week = 53 && 1 ≤ year && (first = 3 || (first = 2 && isLeap year))))

/-- The date of a day of a week.  The weeks of the year 0 lie before the calendar, where there
are no months. -/
def ofWeek? (year week day : Nat) : Option Civil :=
  if !hasWeek year week || day = 0 || 7 < day then none
  else if year = 0 then some { year := 1, month := 0, day := day }
  else
    let number := firstMonday year + (week - 1) * 7 + (day - 1)
    some (Moment.civil { micros := number * microsPerDay })

end Civil

namespace WrittenTime

/-- Whether a text is over: at its end, or at a null character. -/
private def isOver : List Char → Bool
  | [] => true
  | c :: _ => c = '\x00'

/-- How many characters of a text belong to its date.  After the year and a hyphen there are
five more, with a week three or five; without hyphens there are four more, and with a week as
many as leave the digits of a clock in pairs. -/
private def dateLength? (cs : List Char) : Option Nat :=
  if cs.length = 7 then some 7
  else
    match cs.drop 4 with
    | '-' :: 'W' :: _ =>
      if cs.length < 8 then none
      else if cs[8]? = some '-' then
        if cs.length = 9 then none
        else if (cs.drop 10).head?.any Char.isDigit then some 8
        else some 10
      else some 8
    | '-' :: _ => some 10
    | 'W' :: _ =>
      let digits := ((cs.drop 7).takeWhile Char.isDigit).length
      if digits < 2 then some (7 + digits) else some (8 - digits % 2)
    | _ => some 8

/-- Month and day, with hyphens or without. -/
private def monthAndDay? (year : Nat) (hyphens : Bool) (cs : List Char) : Option Civil := do
  let (month, cs) ← digits? 2 cs
  let cs ← if hyphens then char? '-' cs else some cs
  let (day, _) ← digits? 2 cs
  some { year, month, day }

/-- Week and day; the day may be left out. -/
private def weekAndDay? (year : Nat) (hyphens : Bool) (cs : List Char) : Option Civil := do
  let (week, cs) ← digits? 2 cs
  if cs.isEmpty then
    Civil.ofWeek? year week 1
  else
    let cs ← if hyphens then char? '-' cs else some cs
    let (day, _) ← digits? 1 cs
    Civil.ofWeek? year week day

/-- A date. -/
private def isoDate? (cs : List Char) : Option Civil := do
  let (year, cs) ← digits? 4 cs
  match cs with
  | '-' :: 'W' :: cs => weekAndDay? year true cs
  | 'W' :: cs => weekAndDay? year false cs
  | '-' :: cs => monthAndDay? year true cs
  | cs => monthAndDay? year false cs

/-- The microseconds of a fraction after its mark, and whether the text is over behind its
digits.  Whatever stands among the first six characters has to be digits. -/
private def isoFraction? (cs : List Char) : Option (Nat × Bool) :=
  let digits := cs.take 6
  if digits.all Char.isDigit then
    some (fractionValue digits, isOver ((cs.drop 6).dropWhile Char.isDigit))
  else
    none

/-- Up to `count` numbers of two digits, the microseconds behind them, and whether the text is
over there.  The first character between two numbers decides whether colons are used; without
them whatever follows the last number is a fraction. -/
private def clockParts? (count : Nat) (colons : Option Bool) (cs : List Char) :
    Option (List Nat × Nat × Bool) :=
  match count with
  | 0 => (isoFraction? cs).map fun rest => ([], rest)
  | count + 1 => do
    let (value, cs) ← digits? 2 cs
    match cs with
    | [] => some ([value], 0, true)
    | [c] => some ([value], 0, isOver [c])
    | c :: rest =>
      let colons := colons.getD (c = ':')
      if colons && c = ':' then
        (clockParts? count (some colons) rest).map fun (values, rest) => (value :: values, rest)
      else if c = '.' || c = ',' then
        (isoFraction? rest).map fun rest => ([value], rest)
      else if colons then
        none
      else
        (clockParts? count (some colons) (c :: rest)).map fun (values, rest) =>
          (value :: values, rest)

/-- Seconds from hours, minutes and seconds, of which the later ones may be left out. -/
private def secondsOf (values : List Nat) : Nat :=
  (values.getD 0 0 * 60 + values.getD 1 0) * 60 + values.getD 2 0

/-- The offset in microseconds that stands after its sign.  An offset of no whole second is
none. -/
private def isoOffset? (negative : Bool) (cs : List Char) : Option Int := do
  let (values, micro, clean) ← clockParts? 3 none cs
  let size : Int := secondsOf values * Civil.microsPerSecond + micro
  if !clean then none
  else if secondsOf values = 0 then some 0
  else some (if negative then -size else size)

private def isZoneMark (c : Char) : Bool :=
  c = '+' || c = '-' || c = 'Z'

private def isoZone? (cs : List Char) : Option (Option Int) :=
  match cs with
  | [] => some none
  | 'Z' :: rest => if isOver rest then some (some 0) else none
  | '+' :: rest => (isoOffset? false rest).map some
  | _ :: rest => (isoOffset? true rest).map some

/-- A clock with its offset.  What stands between a clock and its zone is passed over. -/
private def isoClock? (civil : Civil) (cs : List Char) : Option WrittenTime := do
  let zone := cs.dropWhile fun c => !isZoneMark c
  let (values, micro, clean) ← clockParts? 3 none (cs.takeWhile fun c => !isZoneMark c)
  let offset ← isoZone? zone
  if zone.isEmpty && !clean then
    none
  else
    some {
      civil := { civil with
        hour := values.getD 0 0, minute := values.getD 1 0, second := values.getD 2 0, micro }
      offset := offset }

/-- How many octets the character has that begins with an octet. -/
private def characterSize (lead : Char) : Nat :=
  if lead.toNat < 0x80 then 1
  else if lead.toNat < 0xE0 then 2
  else if lead.toNat < 0xF0 then 3
  else 4

/-- A date and, after a separator, a clock. -/
private def isoTime? (cs : List Char) : Option WrittenTime := do
  let length ← dateLength? cs
  let civil ← isoDate? (cs.take length)
  match cs.drop length with
  | [] => some { civil := civil }
  | lead :: rest => isoClock? civil (rest.drop (characterSize lead - 1))

private def checkFields (time : WrittenTime) : Except IsoFault WrittenTime :=
  let civil := time.civil
  let offset := time.offset.getD 0
  if Civil.microsPerDay ≤ offset.natAbs then .error (.offset offset)
  else if civil.year = 0 ∨ 9999 < civil.year then .error (.year civil.year)
  else if civil.month = 0 ∨ 12 < civil.month then .error .month
  else if civil.day = 0 ∨ Civil.daysInMonth civil.year civil.month < civil.day then .error .day
  else if 24 ≤ civil.hour then .error .hour
  else if 60 ≤ civil.minute then .error .minute
  else if 60 ≤ civil.second then .error .second
  else .ok time

/-- The time that a text in ISO form gives. -/
def ofIso (text : String) : Except IsoFault WrittenTime :=
  match isoTime? (bytes text) with
  | some time => checkFields time
  | none => .error (.malformed text)

end WrittenTime

end StageGraph
