import Mathlib.Algebra.Order.Field.Power
import Mathlib.Algebra.Order.Field.Rat
import Mathlib.Tactic.GCongr
import Mathlib.Tactic.Linarith
import Mathlib.Tactic.NormNum
import Mathlib.Tactic.Positivity
import Mathlib.Tactic.Ring
import StageGraph.Number.Basic

/-!
# The range of binary numbers

A positive quotient lies between two powers of two whose exponents differ by one, and they
say with which exponent it fills a mantissa.  Only with the greatest exponent it depends on
the rounding whether it stays in the range.  The greatest mantissa is odd, so the middle
between the greatest number and the power of two above it is rounded up, and quotients from
the middle on have no binary number.  Two integers are divided exactly, and an integer that
is divided by a binary number, or divides one, is made a binary number first.
-/

namespace StageGraph

/-- A quotient is rounded to an even number, or beyond, from the middle below it on. -/
theorem le_roundHalfEven_iff {count numerator denominator : Nat} (even : count % 2 = 0)
    (countPositive : 0 < count) (positive : 0 < denominator) :
    count ≤ roundHalfEven numerator denominator ↔
      (2 * count - 1) * denominator ≤ 2 * numerator := by
  have parts := Nat.div_add_mod numerator denominator
  have small := Nat.mod_lt numerator positive
  unfold roundHalfEven
  generalize numerator / denominator = quotient at parts ⊢
  generalize numerator % denominator = rest at parts small ⊢
  subst parts
  dsimp only
  -- How the rest is rounded matters only when the count is the next one after the quotient.
  rcases Nat.lt_trichotomy count (quotient + 1) with below | same | above
  · have atLeast : count ≤ quotient := Nat.lt_succ_iff.mp below
    have scaled : (2 * count - 1) * denominator ≤ 2 * quotient * denominator :=
      Nat.mul_le_mul_right _ (by omega)
    refine iff_of_true (by split <;> omega) ?_
    calc (2 * count - 1) * denominator ≤ 2 * quotient * denominator := scaled
      _ ≤ 2 * (denominator * quotient + rest) := by ring_nf; omega
  · have middle : (2 * count - 1) * denominator = 2 * (denominator * quotient) + denominator := by
      subst same
      rw [show 2 * (quotient + 1) - 1 = 2 * quotient + 1 by omega]
      ring
    rw [middle]
    split <;> omega
  · have scaled : (2 * quotient + 3) * denominator ≤ (2 * count - 1) * denominator :=
      Nat.mul_le_mul_right _ (by omega)
    have tripled : (2 * quotient + 3) * denominator =
        2 * (denominator * quotient) + 3 * denominator := by ring
    refine iff_of_false (by split <;> omega) (by omega)

theorem roundHalfEven_le {numerator denominator count : Nat}
    (below : numerator / denominator < count) : roundHalfEven numerator denominator ≤ count := by
  unfold roundHalfEven
  dsimp only
  split <;> omega

namespace Binary

/-- Where the range of the binary numbers ends: the middle between the greatest of them and
the power of two above it. -/
@[irreducible] def rangeLimit : Nat :=
  2 ^ 1024 - 2 ^ 970

theorem two_zpow_add (exponent : Int) (bits : Nat) :
    (2 : ℚ) ^ (exponent + bits) = ((Nat.pow 2 bits : Nat) : ℚ) * 2 ^ exponent := by
  rw [zpow_add₀ two_ne_zero, zpow_natCast, mul_comm, Nat.pow_eq, Nat.cast_pow, Nat.cast_ofNat]

theorem two_zpow_mul_pow {exponent : Int} {bits total : Nat} (sum : exponent + bits = total) :
    (2 : ℚ) ^ exponent * 2 ^ bits = 2 ^ total := by
  rw [← zpow_natCast, ← zpow_natCast, ← zpow_add₀ two_ne_zero, sum]

theorem rangeLimit_eq : (rangeLimit : ℚ) = (2 ^ 53 - 1 / 2) * 2 ^ maxExponent := by
  have greatest : maxExponent = (970 : Nat) + 1 := rfl
  have power : 2 ^ 1024 = 2 ^ 54 * 2 ^ 970 := by rw [← pow_add]
  have product : rangeLimit = (2 ^ 54 - 1) * 2 ^ 970 := by
    unfold rangeLimit
    rw [power, Nat.sub_mul, Nat.one_mul]
  rw [product, greatest, zpow_add_one₀ two_ne_zero, zpow_natCast, Nat.cast_mul, Nat.cast_pow,
    Nat.cast_ofNat]
  generalize (2 : ℚ) ^ 970 = half
  norm_num
  ring

theorem one_lt_rangeLimit : 1 < rangeLimit := by
  have beyondOne : (1 : ℚ) < rangeLimit := by
    calc (1 : ℚ) < 2 ^ 53 - 1 / 2 := by norm_num
      _ ≤ (2 ^ 53 - 1 / 2) * 2 ^ maxExponent :=
        le_mul_of_one_le_right (by norm_num) (one_le_zpow₀ one_le_two (by decide))
      _ = rangeLimit := rangeLimit_eq.symm
  exact_mod_cast beyondOne

/-! ## Exponents -/

section

variable {numerator denominator : Nat} (numeratorPositive : 0 < numerator)
  (denominatorPositive : 0 < denominator)

variable (numerator) in
include denominatorPositive in
theorem scaleDown_spec (exponent : Int) :
    0 < (scaleDown numerator denominator exponent).2 ∧
      ((scaleDown numerator denominator exponent).1 : ℚ) /
        (scaleDown numerator denominator exponent).2 =
          numerator / denominator / 2 ^ exponent := by
  unfold scaleDown
  split
  · rename_i nonneg
    obtain ⟨power, rfl⟩ := Int.eq_ofNat_of_zero_le nonneg
    refine ⟨Nat.mul_pos denominatorPositive (Nat.pow_pos Nat.two_pos), ?_⟩
    simp [div_div]
  · rename_i negative
    obtain ⟨power, opposite⟩ := Int.eq_ofNat_of_zero_le (by omega : 0 ≤ -exponent)
    obtain rfl : exponent = -(power : Int) := by omega
    refine ⟨denominatorPositive, ?_⟩
    simp [mul_div_right_comm]

include numeratorPositive denominatorPositive in
/-- The lengths of numerator and denominator give the exponent of a quotient up to one. -/
theorem quotient_bounds :
    (2 : ℚ) ^ ((numerator.log2 : Int) - denominator.log2 - 1) < numerator / denominator ∧
      (numerator / denominator : ℚ) < 2 ^ ((numerator.log2 : Int) - denominator.log2 + 1) := by
  have numeratorLow : (2 : ℚ) ^ numerator.log2 ≤ numerator := by
    exact_mod_cast Nat.log2_self_le numeratorPositive.ne'
  have numeratorHigh : (numerator : ℚ) < 2 ^ (numerator.log2 + 1) := by
    exact_mod_cast Nat.lt_log2_self
  have denominatorLow : (2 : ℚ) ^ denominator.log2 ≤ denominator := by
    exact_mod_cast Nat.log2_self_le denominatorPositive.ne'
  have denominatorHigh : (denominator : ℚ) < 2 ^ (denominator.log2 + 1) := by
    exact_mod_cast Nat.lt_log2_self
  have positive : (0 : ℚ) < denominator := by exact_mod_cast denominatorPositive
  generalize numerator.log2 = long at *
  generalize denominator.log2 = short at *
  constructor
  · rw [lt_div_iff₀ positive]
    calc (2 : ℚ) ^ ((long : Int) - short - 1) * denominator
        < 2 ^ ((long : Int) - short - 1) * 2 ^ (short + 1) := by gcongr
      _ = 2 ^ long := two_zpow_mul_pow (by push_cast; ring)
      _ ≤ numerator := numeratorLow
  · rw [div_lt_iff₀ positive]
    calc (numerator : ℚ) < 2 ^ (long + 1) := numeratorHigh
      _ = 2 ^ ((long : Int) - short + 1) * 2 ^ short :=
        (two_zpow_mul_pow (by push_cast; ring)).symm
      _ ≤ 2 ^ ((long : Int) - short + 1) * denominator := by gcongr

variable (numerator) in
include denominatorPositive in
theorem scaleDown_div_lt_iff (exponent : Int) (count : Nat) :
    (scaleDown numerator denominator exponent).1 / (scaleDown numerator denominator exponent).2 <
        count ↔
      (numerator / denominator : ℚ) < count * 2 ^ exponent := by
  obtain ⟨unitPositive, same⟩ := scaleDown_spec numerator denominatorPositive exponent
  have castPositive : (0 : ℚ) < (scaleDown numerator denominator exponent).2 := by
    exact_mod_cast unitPositive
  rw [Nat.div_lt_iff_lt_mul unitPositive, ← @Nat.cast_lt ℚ, Nat.cast_mul,
    ← div_lt_iff₀ castPositive, same, div_lt_iff₀ (by positivity)]

include numeratorPositive denominatorPositive in
/-- With its exponent a quotient fills a mantissa, unless the exponent is the least one. -/
theorem exponentOf_spec :
    ∃ exponent : Int, exponentOf numerator denominator = max exponent minExponent ∧
      (2 : ℚ) ^ (exponent + 52) ≤ numerator / denominator ∧
      (numerator / denominator : ℚ) < 2 ^ (exponent + 53) := by
  obtain ⟨low, high⟩ := quotient_bounds numeratorPositive denominatorPositive
  obtain ⟨guess, isGuess⟩ :
      ∃ guess : Int, (numerator.log2 : Int) - denominator.log2 - 52 = guess := ⟨_, rfl⟩
  have lowExponent : (numerator.log2 : Int) - denominator.log2 - 1 = guess - 1 + 52 := by omega
  have highExponent : (numerator.log2 : Int) - denominator.log2 + 1 = guess + 53 := by omega
  have middleExponent : guess + 52 = guess - 1 + 53 := by omega
  have small_iff := scaleDown_div_lt_iff numerator denominatorPositive guess (Nat.pow 2 52)
  rw [lowExponent] at low
  rw [highExponent] at high
  rw [← two_zpow_add] at small_iff
  simp only [exponentOf, isGuess]
  split
  · rename_i small
    exact ⟨_, rfl, low.le, middleExponent ▸ small_iff.mp small⟩
  · rename_i large
    exact ⟨_, rfl, not_lt.mp (mt small_iff.mpr large), high⟩

theorem exists_infinity_iff {beyond : Prop} [Decidable beyond] {negative : Bool} {mantissa : Nat}
    {exponent : Int} :
    (∃ sign, (if beyond then infinity negative else finite negative mantissa exponent) =
      infinity sign) ↔ beyond := by
  split <;> simp_all

include numeratorPositive in
/-- A quotient leaves the range by its exponent, or with the greatest one by rounding. -/
theorem ofRatio_infinite_iff_exponent (negative : Bool) :
    (∃ sign, ofRatio negative numerator denominator = .infinity sign) ↔
      maxExponent < exponentOf numerator denominator ∨
      (exponentOf numerator denominator = maxExponent ∧
        roundHalfEven (scaleDown numerator denominator maxExponent).1
          (scaleDown numerator denominator maxExponent).2 = Nat.pow 2 mantissaBits) := by
  have notZero : numerator ≠ 0 := numeratorPositive.ne'
  simp only [ofRatio, if_neg notZero]
  generalize exponentOf numerator denominator = exponent
  refine exists_infinity_iff.trans ?_
  rcases lt_trichotomy exponent maxExponent with below | rfl | above
  · split <;> dsimp only <;> omega
  · split
    · rename_i full
      simp [full]
    · rename_i notFull
      simpa using notFull
  · split <;> dsimp only <;> omega

include denominatorPositive in
/-- With the greatest exponent a quotient is rounded beyond the range from its end on. -/
theorem roundHalfEven_full_iff (high : (numerator / denominator : ℚ) < 2 ^ (maxExponent + 53)) :
    roundHalfEven (scaleDown numerator denominator maxExponent).1
        (scaleDown numerator denominator maxExponent).2 = Nat.pow 2 mantissaBits ↔
      (rangeLimit : ℚ) ≤ numerator / denominator := by
  obtain ⟨unitPositive, same⟩ := scaleDown_spec numerator denominatorPositive maxExponent
  have below := (scaleDown_div_lt_iff numerator denominatorPositive maxExponent
    (Nat.pow 2 mantissaBits)).mpr (two_zpow_add maxExponent mantissaBits ▸ high)
  have atMost := roundHalfEven_le below
  generalize (scaleDown numerator denominator maxExponent).1 = scaled at *
  generalize (scaleDown numerator denominator maxExponent).2 = unit at *
  have castPositive : (0 : ℚ) < unit := by exact_mod_cast unitPositive
  calc roundHalfEven scaled unit = Nat.pow 2 mantissaBits
      ↔ 2 ^ 53 ≤ roundHalfEven scaled unit := ⟨fun full => full.ge, atMost.antisymm⟩
    _ ↔ (2 * 2 ^ 53 - 1) * unit ≤ 2 * scaled :=
      le_roundHalfEven_iff rfl (by decide) unitPositive
    _ ↔ (2 ^ 53 - 1 / 2 : ℚ) ≤ scaled / unit := by
      rw [le_div_iff₀ castPositive, ← @Nat.cast_le ℚ]
      push_cast
      constructor <;> intro <;> linarith
    _ ↔ (rangeLimit : ℚ) ≤ numerator / denominator := by
      rw [same, rangeLimit_eq, le_div_iff₀ (by positivity)]

include numeratorPositive denominatorPositive in
/-- A quotient has no binary number from the end of the range on. -/
theorem ofRatio_infinite_iff (negative : Bool) :
    (∃ sign, ofRatio negative numerator denominator = .infinity sign) ↔
      rangeLimit * denominator ≤ numerator := by
  obtain ⟨exponent, isExponent, low, high⟩ :=
    exponentOf_spec numeratorPositive denominatorPositive
  have castPositive : (0 : ℚ) < denominator := by exact_mod_cast denominatorPositive
  have limit_iff : rangeLimit * denominator ≤ numerator ↔
      (rangeLimit : ℚ) ≤ numerator / denominator := by
    rw [le_div_iff₀ castPositive]
    norm_cast
  have least : minExponent < maxExponent := by decide
  rw [ofRatio_infinite_iff_exponent numeratorPositive, isExponent, limit_iff]
  -- Every other exponent than the greatest one decides by itself.
  rcases lt_trichotomy exponent maxExponent with below | rfl | above
  · have inside : (numerator / denominator : ℚ) < rangeLimit := by
      calc (numerator / denominator : ℚ) < 2 ^ (exponent + 53) := high
        _ ≤ 2 ^ (maxExponent + 52) := zpow_le_zpow_right₀ one_le_two (by omega)
        _ = (Nat.pow 2 52 : Nat) * 2 ^ maxExponent := two_zpow_add maxExponent 52
        _ ≤ (2 ^ 53 - 1 / 2) * 2 ^ maxExponent := by gcongr; norm_num
        _ = rangeLimit := rangeLimit_eq.symm
    refine iff_of_false ?_ inside.not_ge
    rintro (beyond | ⟨greatest, _⟩) <;> omega
  · have greatest : max maxExponent minExponent = maxExponent := max_eq_left least.le
    rw [greatest, ← roundHalfEven_full_iff denominatorPositive high]
    simp
  · have beyond : (rangeLimit : ℚ) ≤ numerator / denominator := by
      calc (rangeLimit : ℚ) = (2 ^ 53 - 1 / 2) * 2 ^ maxExponent := rangeLimit_eq
        _ ≤ (Nat.pow 2 53 : Nat) * 2 ^ maxExponent := by gcongr; norm_num
        _ = 2 ^ (maxExponent + 53) := (two_zpow_add maxExponent 53).symm
        _ ≤ 2 ^ (exponent + 52) := zpow_le_zpow_right₀ one_le_two (by omega)
        _ ≤ numerator / denominator := low
    exact iff_of_true (.inl (by omega)) beyond

end

end Binary

/-! ## Quotients -/

namespace Number

/-- The quotient of two positive numbers is beyond the range: that of two integers by its own
size, and another one by that of an integer in it. -/
def Overflows : Number → Number → Prop
  | .integer n, .integer m => Binary.rangeLimit * m ≤ n
  | .integer n, .real _ | .real _, .integer n => Binary.rangeLimit ≤ n
  | .real _, .real _ => False

theorem positive_of_isPositive {n : Int} (positive : (integer n).isPositive = true) : 0 < n := by
  simpa [isPositive, less, ratio?] using positive

/-- An integer has no binary number from the end of the range on. -/
theorem toBinary_fails_iff {n : Int} (positive : 0 < n) :
    (integer n).toBinary = .error {} ↔ Binary.rangeLimit ≤ n := by
  obtain ⟨size, rfl⟩ := Int.eq_ofNat_of_zero_le positive.le
  have infinite_iff := Binary.ofRatio_infinite_iff (Int.natCast_pos.mp positive) one_pos
    (decide ((size : Int) < 0))
  rw [Nat.mul_one] at infinite_iff
  rw [Int.ofNat_le, ← infinite_iff, toBinary, Binary.ofInt, Int.natAbs_natCast]
  cases Binary.ofRatio (decide ((size : Int) < 0)) size 1 <;> simp

theorem div_integers_fails_iff {n m : Int} (numeratorPositive : 0 < n)
    (denominatorPositive : 0 < m) :
    (integer n).div (integer m) = .error {} ↔ Binary.rangeLimit * m ≤ n := by
  obtain ⟨numerator, rfl⟩ := Int.eq_ofNat_of_zero_le numeratorPositive.le
  obtain ⟨denominator, rfl⟩ := Int.eq_ofNat_of_zero_le denominatorPositive.le
  have infinite_iff := Binary.ofRatio_infinite_iff (Int.natCast_pos.mp numeratorPositive)
    (Int.natCast_pos.mp denominatorPositive)
    (decide ((numerator : Int) < 0) != decide ((denominator : Int) < 0))
  rw [← Int.natCast_mul, Int.ofNat_le, ← infinite_iff]
  simp only [div, Int.natAbs_natCast]
  cases Binary.ofRatio _ numerator denominator <;> simp

/-- A quotient of positive numbers is refused when it is beyond the range. -/
theorem div_fails_iff {left right : Number} (leftPositive : left.isPositive = true)
    (rightPositive : right.isPositive = true) :
    left.div right = .error {} ↔ left.Overflows right := by
  cases left with
  | integer n =>
      have dividendPositive := positive_of_isPositive leftPositive
      cases right with
      | integer m =>
          exact div_integers_fails_iff dividendPositive (positive_of_isPositive rightPositive)
      | real y =>
          rw [Overflows, ← toBinary_fails_iff dividendPositive]
          simp only [div]
          cases (integer n).toBinary <;> simp [bind, Except.bind, pure, Except.pure, toBinary]
  | real x =>
      cases right with
      | integer m =>
          rw [Overflows, ← toBinary_fails_iff (positive_of_isPositive rightPositive)]
          simp only [div]
          cases (integer m).toBinary <;> simp [bind, Except.bind, pure, Except.pure, toBinary]
      | real y => simp [Overflows, div, bind, Except.bind, pure, Except.pure, toBinary]

end Number

end StageGraph
