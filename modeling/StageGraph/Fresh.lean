/-!
# Fresh names

A base name with the least counter that makes it differ from all names in use.
-/

namespace StageGraph.Fresh

/-- The candidate with a counter; zero stands for none. -/
def candidate (base : String) (counter : Nat) : String :=
  if counter = 0 then base else base ++ "-" ++ toString counter

/-- The first candidate that is not taken.  One more candidate than taken names is enough. -/
def pick (base : String) (taken : List String) : String :=
  (((List.range (taken.length + 1)).map (candidate base)).find?
    fun name => !taken.contains name).getD base

end StageGraph.Fresh
