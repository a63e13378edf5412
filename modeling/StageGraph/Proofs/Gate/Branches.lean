import StageGraph.Proofs.Gate.Passing
import StageGraph.Proofs.Gate.Settling

/-!
# Setting back selects the branches

A new configuration is completed in one of two ways.  Templates put the given values over
the defaults and give every open dependent key the default of the branch that is selected.
The gate puts them over a configuration that is already complete and sets back what does not
fit.  An open key holds the default of some field all along.  The ways go together where a
default tells the fields of a key apart: it fits its own field, and to another field of the
key, which is visible in some branch only, it does not.  The fields of all built-in kinds
are of this sort.
-/

namespace StageGraph

/-! ## Where defaults come from -/

namespace Field

/-- All values are defaults of fields that have their key. -/
def TakesInitials (fields : List Field) (config : Config) : Prop :=
  ∀ key value, Ledger.get? config key = some value →
    ∃ field ∈ fields, field.key = key ∧ field.initial = value

namespace TakesInitials

variable {fields : List Field} {config : Config} {field : Field}

theorem put (takes : TakesInitials fields config) (member : field ∈ fields) :
    TakesInitials fields (Ledger.put config field.key field.initial) := by
  intro key value found
  rcases Ledger.of_get?_put found with ⟨same, rfl⟩ | ⟨_, earlier⟩
  · exact ⟨field, member, same, rfl⟩
  · exact takes key value earlier

theorem fillVisible (fields : List Field) : TakesInitials fields (fillVisible fields []) := by
  have empty : TakesInitials fields [] := by simp [TakesInitials, Ledger.get?]
  refine List.foldlRecOn fields _ (motive := TakesInitials fields) empty ?_
  intro known takes field member
  split
  · exact takes
  · split
    · exact takes.put member
    · exact takes

theorem defaults (fields : List Field) : TakesInitials fields (defaults fields) := by
  refine List.foldlRecOn fields _ (motive := TakesInitials fields) (fillVisible fields) ?_
  intro known takes field member
  unfold Ledger.putNew
  split
  · exact takes
  · exact takes.put member

end TakesInitials

end Field

namespace Kind

variable {kind : Kind} {given config : Config} {field : Field}

/-- Under the key of a field the defaults hold the default of a field with this key. -/
theorem exists_get?_defaults (member : field ∈ kind.fields) :
    ∃ other ∈ kind.fields, other.key = field.key ∧
      Ledger.get? kind.defaults field.key = some other.initial := by
  have filled : field.key ∈ Ledger.keys (Field.defaults kind.fields) :=
    Field.mem_keys_fillOpen.mpr (.inr ⟨field, member, rfl⟩)
  have found := Config.get?_eq_value filled
  obtain ⟨other, otherMember, sameKey, holds⟩ := Field.TakesInitials.defaults _ _ _ found
  refine ⟨other, otherMember, sameKey, ?_⟩
  rw [defaults, Ledger.get?_putAll (Field.nodup_keys_defaults kind.fields), found, holds]
  rfl

/-! ## Open keys -/

/-- Under the key of a field that is not given stands the default of a field with this
key. -/
def LeavesInitials (kind : Kind) (given config : Config) : Prop :=
  ∀ field ∈ kind.fields, Ledger.has given field.key = false →
    ∃ other ∈ kind.fields, other.key = field.key ∧
      Ledger.get? config field.key = some other.initial

theorem leavesInitials_putAll (kind : Kind) (given : Config) :
    kind.LeavesInitials given (Ledger.putAll kind.defaults given) := by
  intro field member isOpen
  have absent : field.key ∉ Ledger.keys given := by
    rw [← Ledger.has_eq_true_iff, isOpen]
    exact Bool.false_ne_true
  obtain ⟨other, otherMember, sameKey, found⟩ := exists_get?_defaults member
  exact ⟨other, otherMember, sameKey, (Ledger.get?_putAll_of_not_mem absent _).trans found⟩

theorem LeavesInitials.put (leaves : kind.LeavesInitials given config)
    (member : field ∈ kind.fields) :
    kind.LeavesInitials given (Ledger.put config field.key field.initial) := by
  intro other otherMember isOpen
  rw [Ledger.get?_put]
  split
  · rename_i same
    exact ⟨field, member, same, rfl⟩
  · exact leaves other otherMember isOpen

theorem LeavesInitials.fillBranches (leaves : kind.LeavesInitials given config)
    (member : field ∈ kind.fields) :
    kind.LeavesInitials given (fillBranches [field] given config) := by
  apply fillBranches_induction leaves
  intro other isOther known left _
  obtain rfl := List.mem_singleton.mp isOther
  exact left.put member

end Kind

/-! ## Defaults that tell fields apart -/

/-- The field recognizes a default of its key: it is its own and fits, or the field belongs
to a branch and the default does not fit. -/
def Field.Recognizes (field other : Field) : Prop :=
  other.key = field.key →
    (other.initial = field.initial ∧ field.check field.initial = .ok none) ∨
    (field.condition.isSome = true ∧ ∃ message, field.check other.initial = .ok (some message))

namespace Gate

variable {kind : Kind} {given config : Config} {field : Field}

/-- A field is set back where its branch is filled. -/
theorem resetField_eq_fillBranches (testable : field.isTestable config = true)
    (recognizes : ∀ other ∈ kind.fields, field.Recognizes other)
    (leaves : kind.LeavesInitials given config) (member : field ∈ kind.fields) :
    resetField (Ledger.has given) config field = .ok (Kind.fillBranches [field] given config) := by
  unfold resetField Kind.fillBranches
  rw [List.foldl_cons, List.foldl_nil]
  cases isGiven : Ledger.has given field.key with
  | true => simp
  | false =>
      cases visible : field.isVisible config with
      | false => simp [Field.judge_of_hidden testable visible, Except.map]
      | true =>
          obtain ⟨other, otherMember, sameKey, found⟩ := leaves field member isGiven
          have held := Config.value_eq_of_get? found
          rw [Field.judge_of_isVisible visible]
          rcases recognizes other otherMember sameKey with
            ⟨own, fits⟩ | ⟨conditional, message, complains⟩
          · have unchanged : Ledger.put config field.key field.initial = config :=
              Ledger.put_eq_self (own ▸ found)
            simp [held, own, fits, unchanged, Except.map]
          · simp [held, complains, conditional, Except.map]

section

variable (recognizes : ∀ field ∈ kind.fields, ∀ other ∈ kind.fields, field.Recognizes other)
  (testable : ∀ field ∈ kind.fields, field.isAlwaysTestable = true)

include recognizes testable

/-- One pass sets back what filling the branches writes. -/
theorem resetStale_eq_fillBranches {fields : List Field}
    (members : ∀ field ∈ fields, field ∈ kind.fields) (leaves : kind.LeavesInitials given config) :
    resetStale fields (Ledger.has given) config = .ok (Kind.fillBranches fields given config) := by
  induction fields generalizing config with
  | nil => rfl
  | cons field rest induction =>
      have member : field ∈ kind.fields := members field List.mem_cons_self
      have tested := Field.isTestable_of_isAlwaysTestable (testable field member) config
      rw [resetStale, List.foldlM_cons,
        resetField_eq_fillBranches tested (recognizes field member) leaves member]
      exact induction (fun other inRest => members other (List.mem_cons_of_mem _ inRest))
        (leaves.fillBranches member)

/-- A new configuration is merged as it is completed. -/
theorem merge_eq_effective (unbranched : kind.effective [] = kind.defaults) (given : Config) :
    merge kind (Ledger.has given) [] given = .ok (kind.effective given) := by
  rw [merge_of_steady (Kind.steady_of_isAlwaysTestable testable []), unbranched]
  exact resetStale_eq_fillBranches recognizes testable (fun _ => id)
    (kind.leavesInitials_putAll given)

end

end Gate

/-! ## The built-in fields -/

/-- Whether the default of another field of the key is recognized. -/
def Field.isRecognizing (field other : Field) : Bool :=
  other.key ≠ field.key || (field.condition.isSome &&
    match field.check other.initial with
    | .ok (some _) => true
    | _ => false)

theorem Field.recognizes_of_isRecognizing {field other : Field}
    (computed : field.isRecognizing other = true) : field.Recognizes other := by
  intro sameKey
  rcases (Bool.or_eq_true _ _).mp computed with different | complains
  · exact absurd sameKey (of_decide_eq_true different)
  · obtain ⟨conditional, complains⟩ := Bool.and_eq_true_iff.mp complains
    split at complains
    · rename_i message judged
      exact .inr ⟨conditional, message, judged⟩
    · cases complains

/-- The tables of fields are computed through: of two fields of a key, each belongs to a
branch and rejects the default of the other. -/
theorem Catalog.recognizes_builtin : ∀ kind ∈ builtinKinds,
    ∀ field ∈ kind.fields, ∀ other ∈ kind.fields, field.Recognizes other := by
  have table : ∀ kind ∈ builtinKinds, kind.fields.Pairwise fun field other =>
      (field.isRecognizing other && other.isRecognizing field) = true := by
    decide +kernel
  intro kind member
  have own (field : Field) (inKind : field ∈ kind.fields) : field.Recognizes field :=
    fun _ => .inl ⟨rfl, ((settles_builtin kind member).sound field inKind).fits⟩
  have forwards : kind.fields.Pairwise Field.Recognizes := (table kind member).imp fun computed =>
    Field.recognizes_of_isRecognizing (Bool.and_eq_true_iff.mp computed).1
  have backwards : kind.fields.Pairwise fun field other => other.Recognizes field :=
    (table kind member).imp fun computed =>
      Field.recognizes_of_isRecognizing (Bool.and_eq_true_iff.mp computed).2
  intro field inKind other otherInKind
  exact forwards.forall_of_forall_of_flip own backwards inKind otherInKind

/-- The defaults are complete by themselves. -/
theorem Catalog.effective_nil_builtin :
    ∀ kind ∈ builtinKinds, kind.effective [] = kind.defaults :=
  List.map_inj_left.mp rfl

namespace Gate

variable {kind : Kind} {given config : Config}

theorem merge_nil_builtin (builtin : kind ∈ Catalog.builtinKinds) (given : Config) :
    merge kind (Ledger.has given) [] given = .ok (kind.effective given) :=
  merge_eq_effective (Catalog.recognizes_builtin kind builtin)
    (Catalog.isAlwaysTestable_builtin kind builtin) (Catalog.effective_nil_builtin kind builtin)
    given

/-- What the gate lets pass for a new stage is what is given, completed. -/
theorem update_nil_eq_ok (builtin : kind ∈ Catalog.builtinKinds)
    (passed : update kind [] given = .ok config) : config = kind.effective given :=
  Except.ok.inj ((of_update_eq_ok passed).1.symm.trans (merge_nil_builtin builtin given))

theorem update_nil_of_issues (builtin : kind ∈ Catalog.builtinKinds)
    (accepted : kind.issues (kind.effective given) = .ok []) :
    update kind [] given = .ok (kind.effective given) := by
  rw [update_of_issues (merge_nil_builtin builtin given) accepted, if_pos rfl]

end Gate

end StageGraph
