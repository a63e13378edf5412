import StageGraph.Fresh
import StageGraph.Number.Binary
import StageGraph.Phase

/-!
# Ids of new stages

The id of a new stage is its type and a time stamp, with the least counter that
makes it fresh.
-/

namespace StageGraph.StageId

/-- The whole milliseconds of a clock that counts seconds in binary numbers. -/
def stampOf (seconds : Binary) : Int :=
  ((seconds.mul (Binary.ofInt 1000)).toInt?).getD 0

/-- The id without a counter. -/
def base (type stamp : String) : String :=
  type ++ "-" ++ stamp

/-- A fresh id for a stage of a type. -/
def generate (type : String) (taken : List String) (stamp : String) : String :=
  Fresh.pick (base (TypeName.canonical type) stamp) taken

end StageGraph.StageId
