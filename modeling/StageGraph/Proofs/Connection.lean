import Mathlib.Tactic.ByContra
import StageGraph.Connection
import StageGraph.Proofs.Catalog

/-!
# When a connection is an error

A connection is judged wrong only by the types of its ends: when the phases have
nothing to say, the source's type has a list of successors, the target's type is
known, and the target is not on the list.
-/

namespace StageGraph.Connection

/-- The phases alone decide: the target goes back, or a phase is left out. -/
def PhasesDecide (source target : Phase) : Prop :=
  target.rank < source.rank ∨ source.rank + 2 ≤ target.rank

instance (source target : Phase) : Decidable (PhasesDecide source target) :=
  inferInstanceAs (Decidable (_ ∨ _))

theorem judgePhases?_eq_none_iff {source target : Phase} :
    judgePhases? source target = none ↔ ¬ PhasesDecide source target := by
  cases source <;> cases target <;> simp [judgePhases?, PhasesDecide, Phase.rank]

theorem isError_of_judgePhases? {source target : Phase} {finding : Finding}
    (judged : judgePhases? source target = some finding) :
    finding.isError = false := by
  unfold judgePhases? at judged
  split at judged
  · cases judged
    rfl
  · split at judged
    · cases judged
      rfl
    · cases judged

/-- Types allow a connection when nothing is said about the source's, when the
target's is unknown, and when the target's is listed. -/
def TypesAllow (catalog : Catalog) (source target : String) : Prop :=
  allowance? source = none ∨ catalog.lookup target = none ∨
    ∃ allowance, allowance? source = some allowance ∧ target ∈ allowance.allowed

theorem isError_judgeTypes_iff (catalog : Catalog) (source target : String) :
    (judgeTypes catalog source target).isError = false ↔
      TypesAllow catalog source target := by
  unfold judgeTypes TypesAllow
  cases said : allowance? source with
  | none => simp [Finding.isError, Finding.valid]
  | some allowance =>
      cases found : catalog.lookup target with
      | none => simp [Catalog.knows_eq_isSome, found, Finding.isError, Finding.valid]
      | some kind =>
          by_cases listed : target ∈ allowance.allowed
          · cases doubt : allowance.doubtful.lookup target <;>
              simp [Catalog.knows_eq_isSome, found, listed, doubt,
                Finding.isError, Finding.valid, Finding.warning]
          · simp [Catalog.knows_eq_isSome, found, listed, Finding.isError,
              Finding.error]

/-- The phase of a stage's end is that of its effective category. -/
theorem phase?_categoryOf (catalog : Catalog) (stage : Stage) :
    phase? catalog (TypeName.canonical stage.type) (catalog.categoryOf stage) =
      Phase.ofCategory? (catalog.categoryOf stage) := by
  rw [phase?, catalog.categoryOfType_canonical, Catalog.categoryOf]
  by_cases own : stage.category = ""
  · simp [own]
  · simp [own]

/-- A connection is free of errors when the phases decide or the types allow it. -/
theorem isError_judge_iff (catalog : Catalog) (source target : String)
    (sourceCategory targetCategory : String) :
    (judge catalog source target sourceCategory targetCategory).isError = false ↔
      (∃ sourcePhase targetPhase,
        phase? catalog (TypeName.canonical source) sourceCategory = some sourcePhase ∧
        phase? catalog (TypeName.canonical target) targetCategory = some targetPhase ∧
        PhasesDecide sourcePhase targetPhase) ∨
      TypesAllow catalog (TypeName.canonical source) (TypeName.canonical target) := by
  dsimp only [judge]
  cases sourceHas : phase? catalog (TypeName.canonical source) sourceCategory with
  | none => simp [isError_judgeTypes_iff]
  | some sourcePhase =>
      cases targetHas : phase? catalog (TypeName.canonical target) targetCategory with
      | none => simp [isError_judgeTypes_iff]
      | some targetPhase =>
          cases judged : judgePhases? sourcePhase targetPhase with
          | none =>
              have undecided := judgePhases?_eq_none_iff.mp judged
              simp [judged, isError_judgeTypes_iff, undecided]
          | some finding =>
              have decided : PhasesDecide sourcePhase targetPhase := by
                by_contra undecided
                rw [judgePhases?_eq_none_iff.mpr undecided] at judged
                cases judged
              simp [judged, isError_of_judgePhases? judged, decided]

end StageGraph.Connection
