import StageGraph.Time.Civil

/-!
# Clocks

A clock answers every reading from a fixed course of moments, so that what is
done with the time can be described without a running clock.  A course that
leaves the calendar has no moments any more.
-/

namespace StageGraph

/-- The moments that successive readings give, and how many readings there were. -/
structure Clock where
  course : Nat → Option Moment
  readings : Nat := 0

/-- Read the clock. -/
def Clock.read (clock : Clock) : Option Moment × Clock :=
  (clock.course clock.readings, { clock with readings := clock.readings + 1 })

/-- The clock that starts so many microseconds after the start of the calendar and moves by a
fixed step, in microseconds too. -/
def Clock.steady (start step : Int) : Clock :=
  { course := fun reading => Moment.ofMicros? (start + reading * step) }

end StageGraph
