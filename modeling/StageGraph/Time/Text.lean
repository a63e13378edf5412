import StageGraph.Time.Civil

/-!
# Written times

The forms in which times are written: with a final Z in documents, with a zero
offset where offsets are spelled out, and without a zone in headings.  The
fraction of a second has six digits and is left out when it is zero.
-/

namespace StageGraph.Civil

/-- A number with at least `width` digits. -/
def padded (width n : Nat) : String :=
  let digits := Nat.toDigits 10 n
  String.ofList (List.replicate (width - digits.length) '0' ++ digits)

/-- Year, month and day. -/
def dateText (civil : Civil) : String :=
  padded 4 civil.year ++ "-" ++ padded 2 civil.month ++ "-" ++ padded 2 civil.day

/-- Hours, minutes and seconds. -/
def clockText (civil : Civil) : String :=
  padded 2 civil.hour ++ ":" ++ padded 2 civil.minute ++ ":" ++ padded 2 civil.second

/-- The fraction of the second, when there is one. -/
def fractionText (civil : Civil) : String :=
  if civil.micro = 0 then "" else "." ++ padded 6 civil.micro

/-- Date and time joined by a T. -/
def isoText (civil : Civil) : String :=
  civil.dateText ++ "T" ++ civil.clockText ++ civil.fractionText

/-- Date and time in headings, where the year is not padded. -/
def headingText (civil : Civil) : String :=
  toString civil.year ++ "-" ++ padded 2 civil.month ++ "-" ++ padded 2 civil.day ++ " " ++
    civil.clockText

end StageGraph.Civil

namespace StageGraph.Moment

/-- The form in documents. -/
def text (moment : Moment) : String :=
  moment.civil.isoText ++ "Z"

/-- The form with a spelled-out offset. -/
def offsetText (moment : Moment) : String :=
  moment.civil.isoText ++ "+00:00"

end StageGraph.Moment
