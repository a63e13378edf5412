import StageGraph.Number.Decimal

/-!
# Numbers of configurations

A number is an integer of any size or a binary floating-point number.  The two
compare by their exact values.  Arithmetic that mixes them or divides works on
binary numbers and refuses an integer or a quotient beyond their range.
-/

namespace StageGraph

/-- An integer, or a binary floating-point number. -/
inductive Number where
  | integer (n : Int)
  | real (x : Binary)
  deriving DecidableEq, Repr, Inhabited

/-- The value is too large for a binary number. -/
structure OutOfRange where
  deriving DecidableEq, Repr

namespace Number

/-- The exact value as a quotient, for all but infinities and non-numbers. -/
def ratio? : Number → Option (Int × Nat)
  | .integer n => some (n, 1)
  | .real x => x.ratio?

/-- Whether two numbers have the same value. -/
def agrees (left right : Number) : Bool :=
  match left.ratio?, right.ratio? with
  | some (n, d), some (m, e) => n * e == m * d
  | none, none =>
    match left, right with
    | .real (.infinity a), .real (.infinity b) => a == b
    | _, _ => false
  | _, _ => false

/-- Whether the first number is smaller than the second. -/
def less (left right : Number) : Bool :=
  match left, right with
  | .real .nan, _ | _, .real .nan => false
  | .real (.infinity a), .real (.infinity b) => a && !b
  | .real (.infinity a), _ => a
  | _, .real (.infinity b) => !b
  | _, _ =>
    match left.ratio?, right.ratio? with
    | some (n, d), some (m, e) => n * e < m * d
    | _, _ => false

/-- Whether the number is above zero. -/
def isPositive (x : Number) : Bool :=
  (Number.integer 0).less x

/-- Whether the number is zero. -/
def isZero (x : Number) : Bool :=
  x.agrees (.integer 0)

/-- The nearest binary number, unless an integer exceeds the range. -/
def toBinary : Number → Except OutOfRange Binary
  | .real x => .ok x
  | .integer n =>
    match Binary.ofInt n with
    | .infinity _ => .error {}
    | x => .ok x

/-- The sum: exact for two integers, otherwise rounded once. -/
def add (left right : Number) : Except OutOfRange Number :=
  match left, right with
  | .integer n, .integer m => .ok (.integer (n + m))
  | _, _ => do return .real ((← left.toBinary).add (← right.toBinary))

/-- The quotient by a number other than zero.  Two integers divide exactly before the one
rounding, so only a quotient beyond the range is refused. -/
def div (left right : Number) : Except OutOfRange Binary :=
  match left, right with
  | .integer n, .integer m =>
    match Binary.ofRatio (decide (n < 0) != decide (m < 0)) n.natAbs m.natAbs with
    | .infinity _ => .error {}
    | x => .ok x
  | _, _ => do return (← left.toBinary).div (← right.toBinary)

/-- How far the number lies below a count, which it does not exceed by rounding. -/
def below (x : Number) (count : Nat) : Number :=
  match x with
  | .integer n => .integer (count - n)
  | .real x => .real ((Binary.ofInt count).sub x)

/-- The product, rounded once unless both are integers; an integer is rounded before. -/
def times (count : Int) (x : Number) : Number :=
  match x with
  | .integer n => .integer (count * n)
  | .real x => .real ((Binary.ofInt count).mul x)

/-- The text of a number. -/
def text : Number → String
  | .integer n => toString n
  | .real x => x.text

/-- The most digits that an integer is read or written with. -/
def digitLimit : Nat := 4300

/-- Whether the text of a number is written: an integer must not be too long for it. -/
def hasText : Number → Bool
  | .integer n => n.natAbs < Nat.pow 10 digitLimit
  | .real _ => true

/-- The text of a number with six significant digits, which an integer takes as the nearest
binary number. -/
def briefText (x : Number) : Except OutOfRange String :=
  x.toBinary.map Binary.briefText

/-- The size from which on numbers are not taken for integers by their value. -/
def wordLimit : Nat := 9223372036854775808

/-- The integer that a number is, if it is a small enough one. -/
def word? : Number → Option Int
  | .integer n => if -(wordLimit : Int) ≤ n ∧ n < wordLimit then some n else none
  | .real x =>
    match x.ratio? with
    | some (numerator, denominator) =>
      if numerator % denominator = 0 ∧ numerator.natAbs < wordLimit * denominator then
        some (numerator / denominator)
      else none
    | none => none

end Number

end StageGraph
