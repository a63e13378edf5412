import StageGraph.Number.Binary

/-!
# Decimal text of binary numbers

`Decimal.shortest` finds the fewest digits that read back as the same number,
and among those the nearest to it; `Decimal.significant` rounds to a fixed count
of digits.  How digits, point and exponent are then laid out is a `Layout`.
-/

namespace StageGraph

/-- The number `digits · 10 ^ exponent`. -/
structure Decimal where
  digits : Nat
  exponent : Int
  deriving DecidableEq, Repr

namespace Decimal

/-- How many decimal digits a natural number has. -/
def digitCount (n : Nat) : Nat :=
  (Nat.toDigits 10 n).length

/-- The least `k` from `start` on with `10 ^ k · numerator ≥ denominator`, within `fuel` steps. -/
def leastPower (numerator denominator : Nat) : Nat → Nat → Nat
  | 0, k => k
  | fuel + 1, k =>
    if denominator ≤ numerator * Nat.pow 10 k then k
    else leastPower numerator denominator fuel (k + 1)

/-- The power of ten of a positive quotient's leading digit. -/
def leadingPower (numerator denominator : Nat) : Int :=
  if denominator ≤ numerator then
    (digitCount (numerator / denominator) : Int) - 1
  else
    -(leastPower numerator denominator 400 1 : Int)

/-- A quotient divided by a power of ten, as a quotient again. -/
def scaleDown (numerator denominator : Nat) (power : Int) : Nat × Nat :=
  if 0 ≤ power then
    (numerator, denominator * Nat.pow 10 power.toNat)
  else
    (numerator * Nat.pow 10 (-power).toNat, denominator)

/-- Drop trailing zeros. -/
def trimZeros : Nat → Decimal → Decimal
  | 0, d => d
  | fuel + 1, d =>
    if d.digits ≠ 0 ∧ d.digits % 10 = 0 then
      trimZeros fuel { digits := d.digits / 10, exponent := d.exponent + 1 }
    else
      d

/-- The numbers that round to a mantissa, as four times the interval's ends and centre;
the ends belong to it exactly when the mantissa is even. -/
structure Interval where
  low : Nat
  centre : Nat
  high : Nat
  unit : Nat
  closed : Bool

/-- The interval of a positive finite number. -/
def interval (mantissa : Nat) (exponent : Int) : Interval :=
  let below := if mantissa = Nat.pow 2 52 ∧ Binary.minExponent < exponent then 1 else 2
  let (scale, unit) := Binary.magnitude 1 exponent
  { low := (4 * mantissa - below) * scale
    centre := 4 * mantissa * scale
    high := (4 * mantissa + 2) * scale
    unit := 4 * unit
    closed := mantissa % 2 = 0 }

/-- Whether `candidate · 10 ^ power` lies in the interval. -/
def Interval.holds (i : Interval) (power : Int) (candidate : Nat) : Bool :=
  let (low, unit) := scaleDown i.low i.unit power
  let (high, _) := scaleDown i.high i.unit power
  let value := candidate * unit
  if i.closed then low ≤ value && value ≤ high else low < value && value < high

/-- The nearer of the centre's two neighbours on a grid that lies in the interval. -/
def Interval.onGrid? (i : Interval) (power : Int) : Option Decimal :=
  let (centre, unit) := scaleDown i.centre i.unit power
  let below := centre / unit
  let above := below + 1
  let lowHolds := i.holds power below && below ≠ 0
  let highHolds := i.holds power above
  if lowHolds && highHolds then
    let nearLow := 2 * (centre % unit) < unit || (2 * (centre % unit) = unit && below % 2 = 0)
    some { digits := if nearLow then below else above, exponent := power }
  else if lowHolds then
    some { digits := below, exponent := power }
  else if highHolds then
    some { digits := above, exponent := power }
  else
    none

/-- The first grid, from coarse to fine, with a neighbour in the interval. -/
def Interval.firstHit (i : Interval) : Nat → Int → Decimal
  | 0, power => (i.onGrid? power).getD { digits := 0, exponent := 0 }
  | fuel + 1, power => (i.onGrid? power).getD (i.firstHit fuel (power - 1))

/-- The fewest digits that read back as the positive number `mantissa · 2 ^ exponent`. -/
def shortest (mantissa : Nat) (exponent : Int) : Decimal :=
  let i := interval mantissa exponent
  trimZeros 20 (i.firstHit 18 (leadingPower i.centre i.unit + 1))

/-- A positive quotient rounded to a count of significant digits, a half to even. -/
def significant (count numerator denominator : Nat) : Decimal :=
  let power := leadingPower numerator denominator - (count : Int) + 1
  let (scaled, unit) := scaleDown numerator denominator power
  trimZeros 20 { digits := roundHalfEven scaled unit, exponent := power }

end Decimal

/-- Where a number's point and exponent stand. -/
structure Layout where
  /-- The least power of the leading digit that is written positionally. -/
  least : Int
  /-- The first power that is written with an exponent again. -/
  limit : Int
  /-- Whether an integral value keeps a point and a zero. -/
  keepsPoint : Bool
  /-- The least count of digits of an exponent. -/
  exponentWidth : Nat := 2

namespace Layout

private def zeros (count : Nat) : List Char :=
  List.replicate count '0'

private def exponentText (width : Nat) (power : Int) : String :=
  let digits := Nat.toDigits 10 power.natAbs
  (if power < 0 then "e-" else "e+") ++ String.ofList (zeros (width - digits.length) ++ digits)

/-- Write a positive decimal number. -/
def write (layout : Layout) (d : Decimal) : String :=
  let digits := Nat.toDigits 10 d.digits
  let point : Int := (digits.length : Int) + d.exponent
  let power := point - 1
  if layout.least ≤ power ∧ power < layout.limit then
    if point ≤ 0 then
      String.ofList ('0' :: '.' :: zeros (-point).toNat ++ digits)
    else if (digits.length : Int) ≤ point then
      String.ofList (digits ++ zeros (point.toNat - digits.length)) ++
        (if layout.keepsPoint then ".0" else "")
    else
      String.ofList (digits.take point.toNat ++ '.' :: digits.drop point.toNat)
  else
    let mantissa := match digits with
      | [] => []
      | [digit] => [digit]
      | digit :: rest => digit :: '.' :: rest
    String.ofList mantissa ++ exponentText layout.exponentWidth power

/-- Numbers that read back exactly: positional from 0.0001 up to below 10^16. -/
def exact : Layout := { least := -4, limit := 16, keepsPoint := true }

/-- Numbers in stored documents: positional from 0.00001 up to below 10^16. -/
def stored : Layout := { least := -5, limit := 16, keepsPoint := true, exponentWidth := 1 }

/-- Numbers in messages: positional while six digits reach the point. -/
def brief : Layout := { least := -4, limit := 6, keepsPoint := false }

end Layout

namespace Binary

private def signed (negative : Bool) (text : String) : String :=
  if negative then "-" ++ text else text

/-- The text of a number, in a layout, that reads back as the same number. -/
def exactText (layout : Layout) : Binary → String
  | .nan => "nan"
  | .infinity negative => signed negative "inf"
  | .finite negative mantissa exponent =>
    signed negative
      (if mantissa = 0 then "0.0" else layout.write (Decimal.shortest mantissa exponent))

/-- The text of a number that reads back as the same number. -/
def text (x : Binary) : String :=
  x.exactText Layout.exact

/-- The text of a number with six significant digits. -/
def briefText : Binary → String
  | .nan => "nan"
  | .infinity negative => signed negative "inf"
  | .finite negative mantissa exponent =>
    let (numerator, denominator) := magnitude mantissa exponent
    signed negative
      (if mantissa = 0 then "0"
       else Layout.brief.write (Decimal.significant 6 numerator denominator))

end Binary

end StageGraph
