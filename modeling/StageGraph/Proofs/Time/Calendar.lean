import Mathlib.Algebra.Ring.Nat
import StageGraph.Time.Civil

/-!
# The calendar and the count of microseconds

The fields of a moment name a day and a time of day, and lead back to the moment.
A day number falls into the year that `yearOf` guesses from the mean length of
years, and its rest into one of the months of this year.
-/

namespace StageGraph

namespace Civil

/-! ## Years -/

theorem daysBeforeYear_succ {year : Nat} (positive : 1 ≤ year) :
    daysBeforeYear (year + 1) =
      daysBeforeYear year + (if isLeap year then 366 else 365) := by
  obtain ⟨past, rfl⟩ := Nat.exists_eq_add_of_le' positive
  have fewer : past / 100 ≤ past / 4 := by omega
  have hundreds : (past + 1) % 100 = 0 → (past + 1) % 4 = 0 := by omega
  have cycles : (past + 1) % 400 = 0 → (past + 1) % 100 = 0 := by omega
  simp only [daysBeforeYear, Nat.add_sub_cancel, Nat.succ_div, Nat.dvd_iff_mod_eq_zero]
  by_cases four : (past + 1) % 4 = 0 <;> by_cases hundred : (past + 1) % 100 = 0 <;>
    by_cases cycle : (past + 1) % 400 = 0 <;>
    simp_all [isLeap] <;> omega

theorem daysBeforeYear_mono {year later : Nat} (order : year ≤ later) :
    daysBeforeYear year ≤ daysBeforeYear later := by
  induction order with
  | refl => exact Nat.le_refl _
  | @step later _ induction =>
      cases later with
      | zero => exact induction
      | succ past =>
          rw [daysBeforeYear_succ (Nat.le_add_left 1 past)]
          omega

/-- A day belongs to the year that begins with it or before it and ends after it. -/
theorem yearOf_spec (number : Nat) :
    1 ≤ yearOf number ∧ daysBeforeYear (yearOf number) ≤ number ∧
      number < daysBeforeYear (yearOf number + 1) := by
  have near : 146097 * (number * 400 / 146097) ≤ number * 400 ∧
      number * 400 < 146097 * (number * 400 / 146097) + 146097 := by
    omega
  unfold yearOf
  simp only
  generalize number * 400 / 146097 = guess at near
  split
  · rename_i before
    simp only [daysBeforeYear] at before ⊢
    omega
  · split
    · rename_i after
      simp only [daysBeforeYear] at after ⊢
      omega
    · rename_i notBefore notAfter
      exact ⟨by omega, by omega, by omega⟩

/-! ## Months -/

theorem sum_monthLengths (year : Nat) :
    (monthLengths year).sum = if isLeap year then 366 else 365 := by
  unfold monthLengths
  split <;> rfl

theorem daysBeforeMonth_eq_sum (year month : Nat) :
    daysBeforeMonth year month = ((monthLengths year).take (month - 1)).sum := by
  rw [daysBeforeMonth, List.sum_eq_foldl]

/-- The month with this number, counted from `first`, holds the day. -/
theorem monthAndDay_spec (first : Nat) {lengths : List Nat} {rest : Nat}
    (inside : rest < lengths.sum) :
    ∃ place length day, monthAndDay first lengths rest = (first + place, day + 1) ∧
      lengths[place]? = some length ∧ day < length ∧
      (lengths.take place).sum + day = rest := by
  induction lengths generalizing first rest with
  | nil => cases inside
  | cons length lengths induction =>
      rw [monthAndDay]
      split
      · rename_i within
        exact ⟨0, length, rest, rfl, rfl, within, by simp⟩
      · rename_i beyond
        rw [List.sum_cons] at inside
        have left : rest - length < lengths.sum := by omega
        obtain ⟨place, found, day, same, member, within, sum⟩ := induction (first + 1) left
        refine ⟨place + 1, found, day, ?_, member, within, ?_⟩
        · rw [same]
          congr 1
          omega
        · rw [List.take_succ_cons, List.sum_cons]
          omega

/-- The fields name a day of the calendar and a time of day. -/
structure Proper (civil : Civil) : Prop where
  date : isDate civil.year civil.month civil.day = true
  hour : civil.hour < 24
  minute : civil.minute < 60
  second : civil.second < 60
  micro : civil.micro < 1000000

end Civil

namespace Moment

open Civil

/-- The date of a day number of the calendar. -/
theorem date_of_dayNumber {number : Nat} (inCalendar : number < daysBeforeYear 10000) :
    let year := yearOf number
    let date := monthAndDay 1 (monthLengths year) (number - daysBeforeYear year)
    isDate year date.1 date.2 = true ∧ dayNumber year date.1 date.2 = number := by
  intro year date
  obtain ⟨positive, start, finish⟩ : 1 ≤ year ∧ daysBeforeYear year ≤ number ∧
      number < daysBeforeYear (year + 1) := yearOf_spec number
  have early : year ≤ 9999 := by
    apply Nat.le_of_not_lt
    intro late
    have order : daysBeforeYear 10000 ≤ daysBeforeYear year := daysBeforeYear_mono late
    omega
  have inside : number - daysBeforeYear year < (monthLengths year).sum := by
    rw [sum_monthLengths]
    rw [daysBeforeYear_succ positive] at finish
    omega
  obtain ⟨place, length, day, same, found, within, sum⟩ := monthAndDay_spec 1 inside
  have dateEq : date = (1 + place, day + 1) := same
  have days : daysInMonth year (1 + place) = length := by
    simp [daysInMonth, found]
  rw [dateEq]
  constructor
  · simp [isDate, days, positive, early]
    omega
  · simp only [dayNumber, daysBeforeMonth_eq_sum, Nat.add_sub_cancel_left, Nat.add_sub_cancel]
    omega

theorem proper_civil {moment : Moment} (inCalendar : moment.micros < limit) :
    moment.civil.Proper := by
  have number : moment.micros / microsPerDay < daysBeforeYear 10000 :=
    Nat.div_lt_of_lt_mul (by rwa [Nat.mul_comm])
  have rest : moment.micros % microsPerDay < 86400 * 1000000 :=
    Nat.mod_lt _ (by decide)
  constructor
  · exact (date_of_dayNumber number).1
  · simp only [civil, microsPerSecond]
    omega
  · exact Nat.mod_lt _ (by decide)
  · exact Nat.mod_lt _ (by decide)
  · exact Nat.mod_lt _ (by decide)

/-- The calendar fields of a moment lead back to it. -/
theorem micros_civil {moment : Moment} (inCalendar : moment.micros < limit) :
    moment.civil.micros = moment.micros := by
  have number : moment.micros / microsPerDay < daysBeforeYear 10000 :=
    Nat.div_lt_of_lt_mul (by rwa [Nat.mul_comm])
  have day := (date_of_dayNumber number).2
  have split := Nat.div_add_mod moment.micros microsPerDay
  simp only [Civil.micros, civil] at day ⊢
  rw [day, Nat.mul_comm]
  simp only [microsPerSecond]
  omega

theorem ofCivil?_civil {moment : Moment} (inCalendar : moment.micros < limit) :
    ofCivil? moment.civil 0 = some moment := by
  rw [ofCivil?, micros_civil inCalendar, Int.sub_zero, ofMicros?, if_pos]
  · rfl
  · omega

theorem micros_lt_limit_of_ofMicros? {micros : Int} {moment : Moment}
    (found : ofMicros? micros = some moment) : moment.micros < limit := by
  unfold ofMicros? at found
  split at found
  · cases found
    simp only
    omega
  · cases found

end Moment

end StageGraph
