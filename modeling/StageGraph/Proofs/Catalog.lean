import StageGraph.Catalog
import StageGraph.Proofs.Ledger

/-!
# The built-in catalog

A type that the built-in catalog knows is the full name of one of its kinds.
The kinds differ in what they forbid: two of them admit a single stage per flow,
and two of them have a rule whose violation is an error.  No template gives anything
else than code.
-/

namespace StageGraph

namespace TypeName

theorem canonical_of_lookup {name full : String}
    (found : aliases.lookup name = some full) : canonical full = full := by
  have fullNames : ∀ entry ∈ aliases, canonical entry.2 = entry.2 := by decide
  obtain ⟨before, after, split, _⟩ := List.lookup_eq_some_iff.mp found
  exact fullNames (name, full) (by simp [split])

@[simp] theorem canonical_canonical (name : String) :
    canonical (canonical name) = canonical name := by
  cases found : aliases.lookup name with
  | none => simp [canonical, found]
  | some full =>
      have spelled : canonical name = full := by
        simp [canonical, found]
      rw [spelled, canonical_of_lookup found]

/-- A type name that is read from a value is a full one. -/
theorem canonical_ofValue (value : Value) :
    canonical (ofValue value) = ofValue value := by
  have empty : canonical "" = "" := by decide
  unfold ofValue
  split
  · split
    · exact empty
    · exact canonical_canonical _
  · split
    · exact canonical_canonical _
    · exact empty

end TypeName

namespace Catalog

theorem lookup_canonical (catalog : Catalog) (type : String) :
    catalog.lookup (TypeName.canonical type) = catalog.lookup type := by
  rw [lookup, TypeName.canonical_canonical, lookup]

theorem knows_eq_isSome (catalog : Catalog) (type : String) :
    catalog.knows type = (catalog.lookup type).isSome :=
  rfl

theorem categoryOfType_canonical (catalog : Catalog) (type : String) :
    catalog.categoryOfType (TypeName.canonical type) =
      catalog.categoryOfType type := by
  rw [categoryOfType, lookup_canonical, categoryOfType]

/-- What the built-in catalog has under a type is a built-in kind of that type. -/
theorem of_lookup_builtin {type : String} {kind : Kind}
    (found : builtin.lookup type = some kind) :
    kind ∈ builtinKinds ∧ kind.typeName = TypeName.canonical type := by
  have member := Ledger.mem_of_get?_eq_some found
  obtain ⟨other, otherMember, same⟩ := List.mem_map.mp member
  obtain ⟨sameType, rfl⟩ := Prod.mk.inj same
  exact ⟨otherMember, sameType⟩

/-- No rule of a built-in kind has an improper severity or text. -/
theorem builtin_flaws : ∀ kind ∈ builtinKinds, ∀ rule ∈ kind.rules, rule.flaws = [] := by
  simp [builtinKinds, Kind.ingest, Kind.preprocess, Kind.exploration,
    Kind.featureEngineering, Kind.dataSplit, Kind.modelSelection, Kind.training,
    Kind.evaluation, Kind.deployment, Kind.Preprocess.rules,
    Kind.FeatureEngineering.rules, Kind.DataSplit.rules,
    Kind.ModelSelection.rules, Kind.Training.rules, Kind.Evaluation.rules]

/-- Every answer of a rule of a built-in kind is true or false. -/
theorem builtin_answers : ∀ kind ∈ builtinKinds, ∀ rule ∈ kind.rules, ∀ config flow value,
    rule.violated config flow ≠ .error (.notCode value) := by
  have sizes (config : Config) (value : Value) :
      ((Kind.DataSplit.sizesOff config).mapError fun _ => Failure.outOfRange) ≠
        .error (.notCode value) := by
    cases Kind.DataSplit.sizesOff config <;> simp [Except.mapError]
  simp [builtinKinds, Kind.ingest, Kind.preprocess, Kind.exploration,
    Kind.featureEngineering, Kind.dataSplit, Kind.modelSelection, Kind.training,
    Kind.evaluation, Kind.deployment, Kind.Preprocess.rules,
    Kind.FeatureEngineering.rules, Kind.DataSplit.rules,
    Kind.ModelSelection.rules, Kind.Training.rules, Kind.Evaluation.rules, sizes]

/-- The types that a flow may have one stage of. -/
def singleTypes : List String :=
  [TypeName.ingest, TypeName.dataSplit]

/-- A built-in kind admits one stage per flow or any number of them. -/
theorem builtin_limits : ∀ kind ∈ builtinKinds,
    kind.maxInstances = .int 1 ∧ kind.typeName ∈ singleTypes ∨
      kind.maxInstances = .null ∧ kind.typeName ∉ singleTypes := by
  intro kind member
  simp only [builtinKinds, List.mem_cons, List.not_mem_nil, or_false] at member
  rcases member with rfl | rfl | rfl | rfl | rfl | rfl | rfl | rfl | rfl
  · exact .inl ⟨rfl, by decide⟩
  · exact .inr ⟨rfl, by decide⟩
  · exact .inr ⟨rfl, by decide⟩
  · exact .inr ⟨rfl, by decide⟩
  · exact .inl ⟨rfl, by decide⟩
  · exact .inr ⟨rfl, by decide⟩
  · exact .inr ⟨rfl, by decide⟩
  · exact .inr ⟨rfl, by decide⟩
  · exact .inr ⟨rfl, by decide⟩

theorem limit_of_single {type : String} (single : type ∈ singleTypes) :
    ∃ kind, builtin.lookup type = some kind ∧ kind.maxInstances = .int 1 := by
  simp only [singleTypes, List.mem_cons, List.not_mem_nil, or_false] at single
  rcases single with rfl | rfl
  · exact ⟨Kind.ingest, rfl, rfl⟩
  · exact ⟨Kind.dataSplit, rfl, rfl⟩

/-- The types whose stages need a stage of another type, with that type. -/
def prerequisites : List (String × String) :=
  [(TypeName.training, TypeName.dataSplit), (TypeName.evaluation, TypeName.training)]

/-- The rule reports an error exactly in flows without a type. -/
def Demands (rule : Rule) (needed : String) : Prop :=
  rule.severity = .error ∧
    ∀ config flow, rule.violated config flow = .ok (!flow.hasType needed)

/-- Only the need of another type is an error by the rules of built-in kinds. -/
theorem builtin_error_rules : ∀ kind ∈ builtinKinds, ∀ rule ∈ kind.rules,
    rule.severity = .error →
      ∃ needed, (kind.typeName, needed) ∈ prerequisites ∧ Demands rule needed := by
  intro kind member rule ruleMember isError
  simp only [builtinKinds, List.mem_cons, List.not_mem_nil, or_false] at member
  rcases member with rfl | rfl | rfl | rfl | rfl | rfl | rfl | rfl | rfl
  · cases ruleMember
  · obtain rfl := List.mem_singleton.mp ruleMember
    cases isError
  · cases ruleMember
  · obtain rfl := List.mem_singleton.mp ruleMember
    cases isError
  · obtain rfl := List.mem_singleton.mp ruleMember
    cases isError
  · rcases List.mem_cons.mp ruleMember with rfl | second
    · cases isError
    · obtain rfl := List.mem_singleton.mp second
      cases isError
  · obtain rfl := List.mem_singleton.mp ruleMember
    exact ⟨TypeName.dataSplit, by decide, rfl, fun _ _ => rfl⟩
  · obtain rfl := List.mem_singleton.mp ruleMember
    exact ⟨TypeName.training, by decide, rfl, fun _ _ => rfl⟩
  · cases ruleMember

/-- Every need of another type is watched over by a rule. -/
theorem demand_of_prerequisite {type needed : String}
    (pair : (type, needed) ∈ prerequisites) :
    ∃ kind, builtin.lookup type = some kind ∧
      ∃ rule ∈ kind.rules, Demands rule needed := by
  simp only [prerequisites, List.mem_cons, List.not_mem_nil, or_false,
    Prod.mk.injEq] at pair
  rcases pair with ⟨rfl, rfl⟩ | ⟨rfl, rfl⟩
  · exact ⟨Kind.training, rfl, _, List.mem_cons_self, rfl, fun _ _ => rfl⟩
  · exact ⟨Kind.evaluation, rfl, _, List.mem_cons_self, rfl, fun _ _ => rfl⟩

/-! ## Templates -/

/-- What a template gives instead of code is empty or zero, which counts as no
code at all. -/
def GivesCode (catalog : Catalog) : Prop :=
  ∀ kind ∈ Ledger.values catalog.kinds, ∀ config value,
    kind.template config = .error (.notCode value) → value.truthy = false

theorem error_sampleRows? {config : Config} {failure : Failure}
    (fails : Kind.Ingest.sampleRows? config = .error failure) :
    failure = .outOfRange := by
  unfold Kind.Ingest.sampleRows? at fails
  grind

theorem error_validationShare? {config : Config} {failure : Failure}
    (fails : Kind.DataSplit.validationShare? config = .error failure) :
    failure = .outOfRange := by
  unfold Kind.DataSplit.validationShare? at fails
  grind

/-- No built-in template gives anything else than code. -/
theorem template_ne_notCode {kind : Kind} (member : kind ∈ builtinKinds)
    (config : Config) (value : Value) :
    kind.template config ≠ .error (.notCode value) := by
  intro given
  simp only [builtinKinds, List.mem_cons, List.not_mem_nil, or_false] at member
  rcases member with rfl | rfl | rfl | rfl | rfl | rfl | rfl | rfl | rfl
  · have gives : Kind.Ingest.template config = .error (.notCode value) := given
    cases rows : Kind.Ingest.sampleRows? config with
    | ok kept => rw [Kind.Ingest.template, rows] at gives; cases gives
    | error failure =>
        obtain rfl := error_sampleRows? rows
        rw [Kind.Ingest.template, rows] at gives
        cases gives
  · cases given
  · cases given
  · cases given
  · have gives : Kind.DataSplit.template config = .error (.notCode value) := given
    cases share : Kind.DataSplit.validationShare? config with
    | ok held => rw [Kind.DataSplit.template, share] at gives; cases gives
    | error failure =>
        obtain rfl := error_validationShare? share
        rw [Kind.DataSplit.template, share] at gives
        cases gives
  · have gives : Kind.ModelSelection.template config = .error (.notCode value) := given
    cases form : Kind.ModelSelection.form? config with
    | none => rw [Kind.ModelSelection.template, form] at gives; cases gives
    | some chosen => rw [Kind.ModelSelection.template, form] at gives; cases gives
  · cases given
  · cases given
  · cases given

end Catalog

/-- What is rendered instead of code is given by the template. -/
theorem Kind.exists_template_eq_notCode {kind : Kind} {given : Config} {value : Value}
    (rendered : kind.render given = .error (.notCode value)) :
    ∃ config, kind.template config = .error (.notCode value) := by
  unfold render at rendered
  split at rendered
  · cases rendered
  · exact ⟨_, rendered⟩

/-! ## Kinds that stand in nothing's way -/

/-- A limit is a number, rules have a proper severity and proper texts and answer true or
false, and a template gives code, unless they have no answer.  Nothing is said about when
rules and templates answer. -/
structure Kind.WellFormed (kind : Kind) : Prop where
  limit : kind.maxInstances = .null ∨ ∃ number, kind.maxInstances.asNumber? = some number
  texts : ∀ rule ∈ kind.rules, rule.flaws = []
  answers : ∀ rule ∈ kind.rules, ∀ config flow value,
    rule.violated config flow ≠ .error (.notCode value)
  code : ∀ config value, kind.template config ≠ .error (.notCode value)

theorem Kind.WellFormed.ruleObstacle?_eq_none {kind : Kind} (wellFormed : kind.WellFormed)
    {rule : Rule} (member : rule ∈ kind.rules) (config : Config) (flow : Flow) :
    Kind.ruleObstacle? config flow rule = none := by
  unfold Kind.ruleObstacle?
  split
  · simp [wellFormed.texts rule member]
  · rename_i answered
    exact (wellFormed.answers rule member config flow _ answered).elim
  · rfl

namespace Catalog

def WellFormed (catalog : Catalog) : Prop :=
  ∀ kind ∈ Ledger.values catalog.kinds, kind.WellFormed

theorem mem_values_of_lookup {catalog : Catalog} {type : String} {kind : Kind}
    (found : catalog.lookup type = some kind) : kind ∈ Ledger.values catalog.kinds :=
  List.mem_map.mpr ⟨_, Ledger.mem_of_get?_eq_some found, rfl⟩

theorem WellFormed.givesCode {catalog : Catalog} (wellFormed : catalog.WellFormed) :
    catalog.GivesCode := by
  intro kind member config value given
  exact ((wellFormed kind member).code config value given).elim

theorem wellFormed_builtin : builtin.WellFormed := by
  intro kind member
  have builtinKind : kind ∈ builtinKinds := by
    simpa [Ledger.values, builtin] using member
  constructor
  · rcases builtin_limits kind builtinKind with ⟨limited, _⟩ | ⟨unlimited, _⟩
    · exact .inr ⟨_, congrArg Value.asNumber? limited⟩
    · exact .inl unlimited
  · exact builtin_flaws kind builtinKind
  · exact builtin_answers kind builtinKind
  · exact template_ne_notCode builtinKind

theorem givesCode_builtin : builtin.GivesCode :=
  wellFormed_builtin.givesCode

end Catalog

end StageGraph
