import StageGraph.Proofs.Catalog
import StageGraph.Proofs.Distinct
import StageGraph.Structure

/-!
# Errors of the structure of a flow

Of the findings about a flow as a whole three kinds are errors: that no stage
belongs to the data phase, that there is a cycle, and that a type has too many
stages.  Under the built-in catalog the last one concerns two types only.
-/

namespace StageGraph.Structure

theorem hasPhase_iff {catalog : Catalog} {flow : Flow} {phase : Phase} :
    hasPhase catalog flow phase = true ↔
      ∃ stage ∈ flow.stages, catalog.categoryOf stage = phase.text := by
  simp [hasPhase]

/-! ## Too many stages of a type -/

theorem isError_of_surplus? {kind : Kind} {count : Nat} {finding : Finding}
    (found : surplus? kind count = some finding) : finding.isError = true := by
  unfold surplus? at found
  obtain ⟨limit, _, found⟩ := Option.bind_eq_some_iff.mp found
  split at found
  · cases found
    rfl
  · cases found

theorem surplus?_of_unlimited {kind : Kind} (unlimited : kind.maxInstances = .null)
    (count : Nat) : surplus? kind count = none := by
  simp [surplus?, unlimited, Value.asNumber?]

theorem surplus?_eq_none_iff {kind : Kind} {limit : Int}
    (limited : kind.maxInstances = .int limit) (count : Nat) :
    surplus? kind count = none ↔ (count : Int) ≤ limit := by
  simp [surplus?, limited, Value.asNumber?, Value.int, Number.less, Number.ratio?]

/-- A type has no surplus when its kind has none at the count of its stages. -/
theorem cardinality_eq_nil_iff {catalog : Catalog} {flow : Flow} :
    cardinality catalog flow = [] ↔
      ∀ stage ∈ flow.stages, ∀ kind, catalog.lookup stage.type = some kind →
        surplus? kind (countOf flow stage.type) = none := by
  simp [cardinality, usedTypes, List.filterMap_eq_nil_iff,
    Option.bind_eq_none_iff]

theorem isError_of_mem_cardinality {catalog : Catalog} {flow : Flow}
    {finding : Finding} (member : finding ∈ cardinality catalog flow) :
    finding.isError = true := by
  obtain ⟨type, _, found⟩ := List.mem_filterMap.mp member
  obtain ⟨kind, _, surplus⟩ := Option.bind_eq_some_iff.mp found
  exact isError_of_surplus? surplus

/-- A type that no stage has is counted zero times. -/
theorem countOf_eq_zero {flow : Flow} {type : String}
    (unused : ¬ ∃ stage ∈ flow.stages, stage.type = type) : countOf flow type = 0 := by
  simpa [countOf] using unused

theorem no_errors_iff (catalog : Catalog) (flow : Flow) :
    (∀ finding ∈ findings catalog flow, finding.isError = false) ↔
      hasPhase catalog flow .data = true ∧ flow.hasCycle = false ∧
        cardinality catalog flow = [] := by
  have noSurplus :
      (∀ finding ∈ cardinality catalog flow, finding.isError = false) ↔
        cardinality catalog flow = [] := by
    constructor
    · intro clean
      apply List.eq_nil_iff_forall_not_mem.mpr
      intro finding member
      have grave := isError_of_mem_cardinality member
      simp [clean finding member] at grave
    · intro empty
      simp [empty]
  simp only [findings, List.mem_append, mem_when, or_imp, forall_and, noSurplus,
    and_imp, forall_eq_apply_imp_iff]
  simp [Finding.isError, Finding.error, Finding.warning, and_assoc]

/-- Under the built-in catalog a flow with full type names has no surplus when
it has at most one stage of either type that admits one. -/
theorem cardinality_builtin_eq_nil_iff {flow : Flow}
    (full : ∀ stage ∈ flow.stages, TypeName.canonical stage.type = stage.type) :
    cardinality Catalog.builtin flow = [] ↔
      ∀ type ∈ Catalog.singleTypes, countOf flow type ≤ 1 := by
  rw [cardinality_eq_nil_iff]
  constructor
  · intro noSurplus type single
    by_cases used : ∃ stage ∈ flow.stages, stage.type = type
    · obtain ⟨stage, member, rfl⟩ := used
      obtain ⟨kind, found, limited⟩ := Catalog.limit_of_single single
      have within := noSurplus stage member kind found
      rw [surplus?_eq_none_iff limited] at within
      omega
    · rw [countOf_eq_zero used]
      exact Nat.zero_le 1
  · intro few stage member kind found
    obtain ⟨kindMember, sameType⟩ := Catalog.of_lookup_builtin found
    rw [full stage member] at sameType
    rcases Catalog.builtin_limits kind kindMember with
      ⟨limited, single⟩ | ⟨unlimited, _⟩
    · rw [surplus?_eq_none_iff limited]
      have atMost := few stage.type (sameType ▸ single)
      omega
    · exact surplus?_of_unlimited unlimited _

end StageGraph.Structure
