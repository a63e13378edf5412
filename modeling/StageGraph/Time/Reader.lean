import StageGraph.Issue
import StageGraph.Time.Civil

/-!
# Times in documents

A document gives a time as a date with a clock and perhaps an offset, as a date
alone, or as a number of seconds or milliseconds since 1970.  A time without an
offset is taken to be in Coordinated Universal Time.
-/

namespace StageGraph

/-- A time as it is written: calendar fields, and how far its clock is ahead, in
microseconds, where that is said. -/
structure WrittenTime where
  civil : Civil
  offset : Option Int := none
  deriving Repr

/-- The moment of a written time, unless the offset leads out of the calendar. -/
def WrittenTime.moment? (time : WrittenTime) : Option Moment :=
  Moment.ofCivil? time.civil (time.offset.getD 0)

namespace WrittenTime

/-- The value of a run of digits. -/
def digitsValue (digits : List Char) : Nat :=
  digits.foldl (fun value c => value * 10 + (c.toNat - 48)) 0

/-- A number of exactly `count` digits, and the rest. -/
def digits? (count : Nat) (cs : List Char) : Option (Nat × List Char) :=
  let digits := cs.take count
  if digits.length = count ∧ digits.all Char.isDigit then
    some (digitsValue digits, cs.drop count)
  else
    none

/-- The rest after a fixed character. -/
def char? (expected : Char) : List Char → Option (List Char)
  | c :: rest => if c = expected then some rest else none
  | [] => none

/-- Why a text is no date. -/
inductive DateFault where
  | tooShort
  | extraCharacters
  | year
  | separator
  | month
  | day
  | monthRange
  | dayRange
  deriving DecidableEq, Repr

/-- The wording of a date's fault. -/
def DateFault.message : DateFault → String
  | .tooShort => "input is too short"
  | .extraCharacters => "unexpected extra characters at the end of the input"
  | .year => "invalid character in year"
  | .separator => "invalid date separator, expected \x60-\x60"
  | .month => "invalid character in month"
  | .day => "invalid character in day"
  | .monthRange => "month value is outside expected range of 1-12"
  | .dayRange => "day value is outside expected range"

def orFault {α : Type} (fault : DateFault) (result : Option α) : Except DateFault α :=
  match result with
  | some value => .ok value
  | none => .error fault

/-- A date at the start of a text, and the rest. -/
def date (cs : List Char) : Except DateFault (Civil × List Char) := do
  if cs.length < 10 then
    throw .tooShort
  let (year, cs) ← orFault .year (digits? 4 cs)
  let cs ← orFault .separator (char? '-' cs)
  let (month, cs) ← orFault .month (digits? 2 cs)
  let cs ← orFault .separator (char? '-' cs)
  let (day, cs) ← orFault .day (digits? 2 cs)
  if month = 0 ∨ 12 < month then
    throw .monthRange
  else if day = 0 ∨ Civil.daysInMonth year month < day then
    throw .dayRange
  else
    return ({ year := year, month := month, day := day }, cs)

/-- A text that is a date and nothing else. -/
def dateOnly (cs : List Char) : Except DateFault Civil := do
  let (civil, rest) ← date cs
  if rest.isEmpty then return civil else throw .extraCharacters

/-- The first six digits of a fraction as microseconds. -/
def fractionValue (digits : List Char) : Nat :=
  digitsValue ((digits ++ List.replicate 6 '0').take 6)

/-- A fraction of a second, when a point or a comma comes with digits after it. -/
def fraction? (cs : List Char) : Option (Nat × List Char) :=
  match cs with
  | c :: rest =>
    if c = '.' || c = ',' then
      let digits := rest.takeWhile Char.isDigit
      if digits.isEmpty then none
      else some (fractionValue digits, rest.dropWhile Char.isDigit)
    else
      some (0, cs)
  | [] => some (0, [])

/-- Seconds with their fraction, where they are given. -/
def seconds? (cs : List Char) : Option (Nat × Nat × List Char) :=
  match cs with
  | ':' :: rest => do
    let (second, rest) ← digits? 2 rest
    let (micro, rest) ← fraction? rest
    if second < 60 then some (second, micro, rest) else none
  | _ => some (0, 0, cs)

/-- Hours and minutes of an offset, joined by a colon or not. -/
def offset? (cs : List Char) : Option (Nat × List Char) := do
  let (hours, cs) ← digits? 2 cs
  let (minutes, cs) ← digits? 2 ((char? ':' cs).getD cs)
  if minutes < 60 ∧ hours < 24 then some (hours * 60 + minutes, cs) else none

private def minuteMicros : Int := 60 * Civil.microsPerSecond

/-- Whether the sign of an offset is negative, and the rest.  The octets of a minus sign count
as a hyphen does. -/
def sign? (cs : List Char) : Option (Bool × List Char) :=
  match cs with
  | '+' :: rest => some (false, rest)
  | '-' :: rest | '\u00e2' :: '\u0088' :: '\u0092' :: rest => some (true, rest)
  | _ => none

/-- The zone at the end of a text, when there is one. -/
def zone? (cs : List Char) : Option (Option Int) :=
  match cs with
  | [] => some none
  | ['Z'] | ['z'] => some (some 0)
  | cs => do
    let (negative, rest) ← sign? cs
    let (minutes, rest) ← offset? rest
    let size := minutes * minuteMicros
    if rest.isEmpty then some (some (if negative then -size else size)) else none

/-- A date with a clock. -/
def dateAndClock? (cs : List Char) : Option WrittenTime := do
  let (civil, rest) ← (date cs).toOption
  match rest with
  | separator :: rest =>
    if separator = 'T' || separator = 't' || separator = ' ' || separator = '_' then
      let (hour, rest) ← digits? 2 rest
      let rest ← char? ':' rest
      let (minute, rest) ← digits? 2 rest
      let (second, micro, rest) ← seconds? rest
      let offset ← zone? rest
      if hour < 24 ∧ minute < 60 then
        some { civil := { civil with hour, minute, second, micro }, offset := offset }
      else
        none
    else
      none
  | [] => none

/-- Why a count of seconds is no time. -/
inductive CountFault where
  | notANumber
  | early
  | late
  deriving DecidableEq, Repr

/-- The wording of a count's fault. -/
def CountFault.message : CountFault → String
  | .notANumber => "NaN values not permitted"
  | .early => "dates before 0000 are not supported as unix timestamps"
  | .late => "dates after 9999 are not supported as unix timestamps"

/-- Counts beyond this are in milliseconds. -/
def secondsLimit : Nat := 20000000000

/-- The microseconds in one unit of a count that is given as a quotient. -/
def unitMicros (numerator : Int) (denominator : Nat) : Nat :=
  if secondsLimit * denominator < numerator.natAbs then 1000 else Civil.microsPerSecond

/-- The microseconds in a fraction of a unit.  The fraction and the product are binary numbers,
and of two nearest integers the greater is taken. -/
def fractionMicros (numerator denominator unit : Nat) : Nat :=
  match ((Binary.ofRatio false numerator denominator).mul (.ofInt unit)).ratio? with
  | some (scaled, parts) => (2 * scaled.toNat + parts) / (2 * parts)
  | none => 0

/-- The time that lies a quotient of units after the start of 1970; it may lie in the year 0. -/
def ofCount (numerator : Int) (denominator : Nat) : Except CountFault WrittenTime :=
  let unit := unitMicros numerator denominator
  let fraction := fractionMicros (numerator % denominator).toNat denominator unit
  let micros := Moment.epoch + numerator / denominator * unit + fraction
  if micros < -Civil.leapYearMicros then .error .early
  else if Moment.limit ≤ micros then .error .late
  else .ok { civil := Civil.ofMicros micros, offset := some 0 }

/-- The time after a count that may have a fraction. -/
def ofNumber : Number → Except CountFault WrittenTime
  | .integer n => ofCount n 1
  | .real .nan => .error .notANumber
  | .real (.infinity negative) => .error (if negative then .early else .late)
  | .real x =>
    match x.ratio? with
    | some (numerator, denominator) => ofCount numerator denominator
    | none => .error .notANumber

/-- The greatest whole part of a count in a text. -/
def wholeLimit : Nat := 9223372036854775807

/-- Whether a minus sign stands in front, and what follows the sign if there is one. -/
def splitSign : List Char → Bool × List Char
  | '-' :: rest => (true, rest)
  | '+' :: rest => (false, rest)
  | cs => (false, cs)

/-- The power of ten that ends a count: a letter, perhaps a sign, and digits; zero where there is
nothing. -/
def power? : List Char → Option Int
  | [] => some 0
  | letter :: rest =>
    let (negative, digits) := splitSign rest
    if letter ≠ 'e' && letter ≠ 'E' || digits.isEmpty || !digits.all Char.isDigit then none
    else
      let power : Int := digitsValue digits
      some (if negative then -power else power)

/-- The number that a text of digits spells, with a sign, with a point, or with both.  Only behind
a point may a power of ten stand. -/
def count? (cs : List Char) : Option Number :=
  let (negative, unsigned) := splitSign cs
  let whole := unsigned.takeWhile Char.isDigit
  if wholeLimit < digitsValue whole then none
  else
    match unsigned.dropWhile Char.isDigit with
    | [] =>
      let n : Int := digitsValue whole
      if whole.isEmpty then none else some (.integer (if negative then -n else n))
    | '.' :: rest =>
      let fraction := rest.takeWhile Char.isDigit
      let digits := whole ++ fraction
      if digits.isEmpty then none
      else
        (power? (rest.dropWhile Char.isDigit)).map fun power =>
          .real (.ofDecimal negative (digitsValue digits) (power - fraction.length))
    | _ => none

/-- The bytes of a text, each as a character. -/
def bytes (text : String) : List Char :=
  text.toUTF8.toList.map fun byte => Char.ofNat byte.toNat

/-- The start of the day that a text gives. -/
def ofDate (cs : List Char) : Except Problem WrittenTime :=
  match dateOnly cs with
  | .ok civil => .ok { civil := civil }
  | .error fault => .error (.unreadableMoment fault.message)

/-- The time that a text gives.  A count with a point that leads out of the calendar is judged
as a date. -/
def ofText (text : String) : Except Problem WrittenTime :=
  let cs := bytes text
  match dateAndClock? cs, count? cs with
  | some time, _ => .ok time
  | none, none => ofDate cs
  | none, some count =>
    match ofNumber count, count with
    | .ok time, _ => .ok time
    | .error fault, .integer _ => .error (.unreadableMoment fault.message)
    | .error _, .real _ => ofDate cs

/-- The time that a value spells, even in the year 0. -/
def spelled (value : Value) : Except Problem WrittenTime :=
  match value with
  | .number n => (ofNumber n).mapError fun fault => .unreachableMoment fault.message
  | value =>
    match value.asText? with
    | some content => ofText content
    | none => .error .notMoment

/-- The time that a value gives. -/
def read (value : Value) : Checked WrittenTime :=
  match spelled value with
  | .ok time =>
    if time.civil.year = 0 then
      Checked.fail (.unreachableMoment "year 0 is out of range") value
    else .ok time
  | .error problem => Checked.fail problem value

end WrittenTime

end StageGraph
