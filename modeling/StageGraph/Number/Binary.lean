/-!
# Binary floating-point numbers

The numbers of the 64-bit interchange format as exact data: a sign, a mantissa
of at most 53 bits and a power of two.  Every operation computes the exact
rational result and rounds it once, to nearest with ties to the even mantissa,
so no property of machine arithmetic is taken on trust.
-/

namespace StageGraph

/-- The integer nearest to a quotient; a half goes to the even neighbour. -/
def roundHalfEven (numerator denominator : Nat) : Nat :=
  let quotient := numerator / denominator
  let rest := numerator % denominator
  if denominator < 2 * rest ∨ (2 * rest = denominator ∧ quotient % 2 = 1) then
    quotient + 1
  else
    quotient

/-- Not a number, an infinity, or `± mantissa · 2 ^ exponent`. -/
inductive Binary where
  | nan
  | infinity (negative : Bool)
  | finite (negative : Bool) (mantissa : Nat) (exponent : Int)
  deriving DecidableEq, Repr, Inhabited

namespace Binary

/-- The least exponent, used by zero and by the numbers below `2 ^ (-1022)`. -/
def minExponent : Int := -1074

/-- The greatest exponent. -/
def maxExponent : Int := 971

/-- The bits of a full mantissa. -/
def mantissaBits : Nat := 53

def zero : Binary := .finite false 0 minExponent

/-- A quotient divided by a power of two, as a quotient again. -/
def scaleDown (numerator denominator : Nat) (exponent : Int) : Nat × Nat :=
  if 0 ≤ exponent then
    (numerator, denominator * Nat.pow 2 exponent.toNat)
  else
    (numerator * Nat.pow 2 (-exponent).toNat, denominator)

/-- The exponent with which a positive quotient fills a mantissa, or the least one. -/
def exponentOf (numerator denominator : Nat) : Int :=
  let guess : Int := (numerator.log2 : Int) - (denominator.log2 : Int) - 52
  let (scaled, unit) := scaleDown numerator denominator guess
  let exponent := if scaled / unit < Nat.pow 2 52 then guess - 1 else guess
  max exponent minExponent

/-- The number nearest to a quotient of naturals with a sign; beyond the range, an infinity. -/
def ofRatio (negative : Bool) (numerator denominator : Nat) : Binary :=
  if numerator = 0 then
    .finite negative 0 minExponent
  else
    let exponent := exponentOf numerator denominator
    let (scaled, unit) := scaleDown numerator denominator exponent
    let rounded := roundHalfEven scaled unit
    let (mantissa, exponent) :=
      if rounded = Nat.pow 2 mantissaBits then (Nat.pow 2 52, exponent + 1) else (rounded, exponent)
    if maxExponent < exponent then .infinity negative else .finite negative mantissa exponent

/-- The number nearest to an integer. -/
def ofInt (n : Int) : Binary :=
  ofRatio (n < 0) n.natAbs 1

/-- The number nearest to `digits · 10 ^ exponent`. -/
def ofDecimal (negative : Bool) (digits : Nat) (exponent : Int) : Binary :=
  let size : Int := (Nat.toDigits 10 digits).length
  if digits = 0 ∨ exponent + size < -400 then .finite negative 0 minExponent
  else if 400 < exponent + size then .infinity negative
  else if 0 ≤ exponent then ofRatio negative (digits * Nat.pow 10 exponent.toNat) 1
  else ofRatio negative digits (Nat.pow 10 (-exponent).toNat)

/-- The denominator-cleared value of a finite number: numerator and denominator. -/
def magnitude (mantissa : Nat) (exponent : Int) : Nat × Nat :=
  if 0 ≤ exponent then (mantissa * Nat.pow 2 exponent.toNat, 1)
  else (mantissa, Nat.pow 2 (-exponent).toNat)

/-- The exact value of a finite number as a quotient with positive denominator. -/
def ratio? : Binary → Option (Int × Nat)
  | .finite negative mantissa exponent =>
    let (numerator, denominator) := magnitude mantissa exponent
    some (if negative then -(numerator : Int) else numerator, denominator)
  | _ => none

def isNegative : Binary → Bool
  | .nan => false
  | .infinity negative => negative
  | .finite negative _ _ => negative

/-- The number nearest to a quotient of an integer; an exact zero takes the given sign. -/
def ofSignedRatio (zeroSign : Bool) (numerator : Int) (denominator : Nat) : Binary :=
  ofRatio (if numerator = 0 then zeroSign else numerator < 0) numerator.natAbs denominator

def neg : Binary → Binary
  | .nan => .nan
  | .infinity negative => .infinity (!negative)
  | .finite negative mantissa exponent => .finite (!negative) mantissa exponent

def abs : Binary → Binary
  | .nan => .nan
  | .infinity _ => .infinity false
  | .finite _ mantissa exponent => .finite false mantissa exponent

/-- The sum, rounded once. -/
def add (left right : Binary) : Binary :=
  match left, right with
  | .nan, _ | _, .nan => .nan
  | .infinity a, .infinity b => if a = b then .infinity a else .nan
  | .infinity a, _ => .infinity a
  | _, .infinity b => .infinity b
  | .finite a _ _, .finite b _ _ =>
    match left.ratio?, right.ratio? with
    | some (n, d), some (m, e) => ofSignedRatio (a && b) (n * e + m * d) (d * e)
    | _, _ => .nan

def sub (left right : Binary) : Binary :=
  left.add right.neg

/-- The product, rounded once. -/
def mul (left right : Binary) : Binary :=
  let negative := left.isNegative != right.isNegative
  match left, right with
  | .nan, _ | _, .nan => .nan
  | .infinity _, .infinity _ => .infinity negative
  | .infinity _, .finite _ mantissa _ | .finite _ mantissa _, .infinity _ =>
    if mantissa = 0 then .nan else .infinity negative
  | .finite _ m e, .finite _ n f =>
    let (a, b) := magnitude m e
    let (c, d) := magnitude n f
    ofRatio negative (a * c) (b * d)

/-- The quotient, rounded once; division by zero gives an infinity, or no number for zero. -/
def div (left right : Binary) : Binary :=
  let negative := left.isNegative != right.isNegative
  match left, right with
  | .nan, _ | _, .nan | .infinity _, .infinity _ => .nan
  | .infinity _, .finite _ _ _ => .infinity negative
  | .finite _ _ _, .infinity _ => .finite negative 0 minExponent
  | .finite _ m e, .finite _ n f =>
    if n = 0 then
      if m = 0 then .nan else .infinity negative
    else
      let (a, b) := magnitude m e
      let (c, d) := magnitude n f
      ofRatio negative (a * d) (b * c)

/-- Round to a count of decimal places, a tie of the exact value going to the even digit. -/
def roundPlaces (places : Nat) : Binary → Binary
  | .finite negative mantissa exponent =>
    let (numerator, denominator) := magnitude mantissa exponent
    ofRatio negative (roundHalfEven (numerator * Nat.pow 10 places) denominator)
      (Nat.pow 10 places)
  | other => other

/-- The integer part of a finite number. -/
def toInt? (x : Binary) : Option Int :=
  x.ratio?.map fun (numerator, denominator) => numerator.tdiv denominator

end Binary

end StageGraph
