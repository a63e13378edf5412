import StageGraph.Proofs.Catalog
import StageGraph.Proofs.Gate.Completion

/-!
# What the gate enforces

A number is refused when it is less than the lower bound of its field, or when the upper
bound is less than it.  Two numbers are ordered by their values unless one of them is
NaN, of which both comparisons fail.  So what has passed the gate keeps all bounds but
those that are compared with NaN; choices, lists of choices and required values are
enforced without exception.
-/

namespace StageGraph

/-! ## The order of numbers -/

namespace Number

def IsNaN (n : Number) : Prop :=
  n = .real .nan

/-- One number lies below another or has its value. -/
def AtMost (left right : Number) : Prop :=
  left.less right = true ∨ left.agrees right = true

theorem isNaN_cases (n : Number) :
    n.IsNaN ∨ (∃ negative, n = .real (.infinity negative)) ∨
      ∃ numerator denominator, n.ratio? = some (numerator, denominator) := by
  rcases n with n | (_ | negative | ⟨negative, mantissa, exponent⟩)
  · exact .inr (.inr ⟨n, 1, rfl⟩)
  · exact .inl rfl
  · exact .inr (.inl ⟨negative, rfl⟩)
  · exact .inr (.inr ⟨_, _, rfl⟩)

section

variable {left right : Number} {n m : Int} {d e : Nat}

theorem less_eq_of_ratios (leftRatio : left.ratio? = some (n, d))
    (rightRatio : right.ratio? = some (m, e)) : left.less right = decide (n * e < m * d) := by
  rcases left with n | (_ | negative | ⟨negative, mantissa, exponent⟩) <;>
    rcases right with m | (_ | negative | ⟨negative, mantissa, exponent⟩) <;>
    simp_all [less, ratio?, Binary.ratio?]

theorem less_infinity (ratio : left.ratio? = some (n, d)) (negative : Bool) :
    left.less (.real (.infinity negative)) = !negative := by
  rcases left with n | (_ | negative | ⟨negative, mantissa, exponent⟩)
  · rfl
  · cases ratio
  · cases ratio
  · rfl

theorem infinity_less (ratio : right.ratio? = some (n, d)) (negative : Bool) :
    less (.real (.infinity negative)) right = negative := by
  rcases right with n | (_ | negative | ⟨negative, mantissa, exponent⟩)
  · rfl
  · cases ratio
  · cases ratio
  · rfl

/-- NaN is not below anything, nothing is below it, and nothing has its value. -/
theorem AtMost.ordered (atMost : left.AtMost right) : ¬left.IsNaN ∧ ¬right.IsNaN := by
  constructor
  · rintro rfl
    rcases right with n | (_ | negative | ⟨negative, mantissa, exponent⟩) <;>
      rcases atMost with below | same <;> contradiction
  · rintro rfl
    rcases left with n | (_ | negative | ⟨negative, mantissa, exponent⟩) <;>
      rcases atMost with below | same <;> contradiction

/-- Apart from NaN a number is at most every other that is not less than it. -/
theorem atMost_of_not_less (leftOrdered : ¬left.IsNaN) (rightOrdered : ¬right.IsNaN)
    (notLess : right.less left = false) : left.AtMost right := by
  rcases left.isNaN_cases with isNaN | ⟨a, rfl⟩ | ⟨n, d, leftRatio⟩
  · exact absurd isNaN leftOrdered
  · rcases right.isNaN_cases with isNaN | ⟨b, rfl⟩ | ⟨m, e, rightRatio⟩
    · exact absurd isNaN rightOrdered
    · cases a <;> cases b
      · exact .inr rfl
      · cases notLess
      · exact .inl rfl
      · exact .inr rfl
    · rw [less_infinity rightRatio] at notLess
      exact .inl ((infinity_less rightRatio a).trans (by simpa using notLess))
  · rcases right.isNaN_cases with isNaN | ⟨b, rfl⟩ | ⟨m, e, rightRatio⟩
    · exact absurd isNaN rightOrdered
    · rw [infinity_less leftRatio] at notLess
      exact .inl ((less_infinity leftRatio b).trans (by rw [notLess]; rfl))
    · rw [less_eq_of_ratios rightRatio leftRatio, decide_eq_false_iff_not, Int.not_lt]
        at notLess
      rcases Int.lt_or_eq_of_le notLess with below | same
      · left
        rw [less_eq_of_ratios leftRatio rightRatio]
        exact decide_eq_true below
      · right
        simp [agrees, leftRatio, rightRatio, same]

end

end Number

/-! ## Fields -/

/-- A bound is not declared, or it is a number in some relation. -/
def Value.Bounds (bound : Value) (relation : Number → Prop) : Prop :=
  bound = .null ∨ ∃ limit, bound.asNumber? = some limit ∧ relation limit

/-- A kind of which the values are numbers. -/
def FieldKind.isNumeric : FieldKind → Bool
  | .number | .slider => true
  | _ => false

namespace Field

/-- What is expected of the value of a visible field that has passed the gate. -/
structure Enforced (field : Field) (value : Value) : Prop where
  number : field.kind.isNumeric = true → value.isUnset = false → ∃ n, value = .number n ∧
    field.minimum.Bounds (fun least => least.AtMost n) ∧
    field.maximum.Bounds (fun greatest => n.AtMost greatest)
  option : field.kind = .select → field.options ≠ [] → value.isUnset = false →
    value.isAmong field.offered = true
  items : field.kind = .multiselect → value.isUnset = false → ∃ items, value = .list items ∧
    ∀ item ∈ items, item.isAmong field.offered = true
  filled : field.required.truthy = true → value.isUnset = false

/-- No number is compared with a declared bound of which one is NaN. -/
def Ordered (field : Field) (value : Value) : Prop :=
  field.kind.isNumeric = true → ∀ n, value = .number n →
    ∀ bound ∈ [field.minimum, field.maximum], ∀ limit, bound.asNumber? = some limit →
      ¬n.IsNaN ∧ ¬limit.IsNaN

variable {field : Field} {value : Value}

theorem Enforced.ordered (enforced : field.Enforced value) : field.Ordered value := by
  rintro numeric n rfl bound declared limit isLimit
  obtain ⟨_, same, lower, upper⟩ := enforced.number numeric rfl
  cases same
  have notNull : bound ≠ .null := by
    rintro rfl
    cases isLimit
  simp only [List.mem_cons, List.not_mem_nil, or_false] at declared
  rcases declared with rfl | rfl
  · obtain ⟨least, isLeast, atMost⟩ := lower.resolve_left notNull
    obtain rfl := Option.some.inj (isLimit.symm.trans isLeast)
    exact atMost.ordered.symm
  · obtain ⟨greatest, isGreatest, atMost⟩ := upper.resolve_left notNull
    obtain rfl := Option.some.inj (isLimit.symm.trans isGreatest)
    exact atMost.ordered

theorem misfit?_eq_none (fits : field.check value = .ok none) : field.misfit? value = .ok none := by
  unfold check at fits
  cases judged : field.misfit? value with
  | error fault => rw [judged] at fits; cases fits
  | ok misfit? =>
      cases misfit? with
      | none => rfl
      | some misfit =>
          rw [judged] at fits
          cases worded : misfit.message field.label.display with
          | error fault => simp [worded, bind, Except.bind, Except.mapError] at fits
          | ok message =>
              simp [worded, bind, Except.bind, Except.mapError, pure, Except.pure] at fits

theorem bounds_of_bound? {bound : Value} {declared : Option Number}
    {relation : Number → Prop} (isDeclared : bound? bound = .ok declared)
    (holds : ∀ limit, declared = some limit → relation limit) : bound.Bounds relation := by
  unfold bound? at isDeclared
  split at isDeclared
  · exact .inl rfl
  · split at isDeclared
    · rename_i limit isLimit
      obtain rfl := Except.ok.inj isDeclared
      exact .inr ⟨limit, isLimit, holds limit rfl⟩
    · cases isDeclared

/-- A number that is not outside the bounds is not less than the lower one, nor is the
upper one less than it. -/
theorem bounds_of_outside? {n : Number} (inside : field.outside? n = .ok none) :
    field.minimum.Bounds (fun least => n.less least = false) ∧
      field.maximum.Bounds (fun greatest => greatest.less n = false) := by
  unfold outside? at inside
  cases lower : bound? field.minimum with
  | error fault => rw [lower] at inside; cases inside
  | ok least =>
      simp only [lower, bind, Except.bind] at inside
      split at inside
      · cases inside
      · rename_i notBelow
        cases upper : bound? field.maximum with
        | error fault => rw [upper] at inside; cases inside
        | ok greatest =>
            rw [upper] at inside
            have notAbove := Option.map_eq_none_iff.mp (Except.ok.inj inside)
            constructor
            · apply bounds_of_bound? lower
              rintro limit rfl
              simpa using notBelow
            · apply bounds_of_bound? upper
              rintro limit rfl
              simpa using notAbove

section

variable (noMisfit : field.misfit? value = .ok none)

include noMisfit

theorem isUnset_eq_false_of_required (required : field.required.truthy = true) :
    value.isUnset = false := by
  apply Bool.eq_false_iff.mpr
  intro unset
  simp [misfit?, unset, required] at noMisfit

variable (filled : value.isUnset = false)

include filled

theorem outside?_of_numeric (numeric : field.kind.isNumeric = true) :
    ∃ n, value = .number n ∧ field.outside? n = .ok none := by
  cases kind : field.kind with
  | number =>
      cases value <;> simp_all [misfit?]
  | slider =>
      cases value <;> simp_all [misfit?]
  | _ => rw [kind] at numeric; cases numeric

theorem isAmong_of_select (select : field.kind = .select) (offers : field.options ≠ []) :
    value.isAmong field.offered = true := by
  have noOptions : field.options.isEmpty = false := by simpa using offers
  simpa [misfit?, filled, select, noOptions] using noMisfit

theorem items_of_multiselect (multiselect : field.kind = .multiselect) :
    ∃ items, value = .list items ∧ ∀ item ∈ items, item.isAmong field.offered = true := by
  cases value <;> simp_all [misfit?]

end

/-- A value that fits is as expected, if it is ordered with the bounds of its field. -/
theorem Ordered.enforced (ordered : field.Ordered value) (fits : field.check value = .ok none) :
    field.Enforced value := by
  have noMisfit := misfit?_eq_none fits
  refine ⟨fun numeric filled => ?_, fun select offers filled =>
    isAmong_of_select noMisfit filled select offers, fun multiselect filled =>
    items_of_multiselect noMisfit filled multiselect, isUnset_eq_false_of_required noMisfit⟩
  obtain ⟨n, rfl, inside⟩ := outside?_of_numeric noMisfit filled numeric
  obtain ⟨lower, upper⟩ := bounds_of_outside? inside
  refine ⟨n, rfl, lower.imp_right ?_, upper.imp_right ?_⟩
  · rintro ⟨least, isLeast, notBelow⟩
    obtain ⟨isOrdered, leastOrdered⟩ :=
      ordered numeric n rfl field.minimum List.mem_cons_self least isLeast
    exact ⟨least, isLeast, Number.atMost_of_not_less leastOrdered isOrdered notBelow⟩
  · rintro ⟨greatest, isGreatest, notAbove⟩
    obtain ⟨isOrdered, greatestOrdered⟩ := ordered numeric n rfl field.maximum
      (List.mem_cons_of_mem _ List.mem_cons_self) greatest isGreatest
    exact ⟨greatest, isGreatest,
      Number.atMost_of_not_less isOrdered greatestOrdered notAbove⟩

end Field

/-- What passes the gate is as its visible fields expect it, field by field, unless NaN is
compared with a declared bound. -/
theorem Gate.apply_enforced_iff {catalog : Catalog} {type : Value} {current : Option Config}
    {updates config : Config}
    (passed : apply catalog type (.optional current) (.record updates) = .ok config) :
    ∃ kind, kind? catalog type = some kind ∧
      ∀ field ∈ kind.fields, field.isVisible config = true →
        (field.Enforced (Config.value config field.key) ↔
          field.Ordered (Config.value config field.key)) := by
  obtain ⟨kind, known⟩ := exists_kind_of_apply_eq_ok passed
  obtain ⟨_, _, _, _, noIssue⟩ := of_apply_eq_ok known passed
  refine ⟨kind, known, fun field member visible => ?_⟩
  have fits := Kind.accepts_of_issuesOf_eq_nil noIssue field member visible
  exact ⟨Field.Enforced.ordered, fun ordered => ordered.enforced fits⟩

namespace Gate

/-- A training with a cross-validation of so many folds. -/
def crossValidated (folds : Number) : Config :=
  [("label", "Training"), ("learningType", "Supervised"), ("crossValidation", .bool true),
    ("classWeights", "None"), ("earlyStoppingPatience", .int 10), ("verbose", .bool false),
    ("cvFolds", .number folds)]

theorem apply_enforced_iff_sevenFolds :
    apply Catalog.builtin "trainingNode" (.optional (some (crossValidated (.integer 5))))
        (.record [("cvFolds", .int 7)]) = .ok (crossValidated (.integer 7)) ∧
    ∃ kind, kind? Catalog.builtin "trainingNode" = some kind ∧
      ∀ field ∈ kind.fields, field.isVisible (crossValidated (.integer 7)) = true →
        (field.Enforced (Config.value (crossValidated (.integer 7)) field.key) ↔
          field.Ordered (Config.value (crossValidated (.integer 7)) field.key)) := by
  have passed : apply Catalog.builtin "trainingNode"
      (.optional (some (crossValidated (.integer 5)))) (.record [("cvFolds", .int 7)]) =
        .ok (crossValidated (.integer 7)) := rfl
  exact ⟨passed, apply_enforced_iff passed⟩

/-- NaN folds pass, although they are not at least three. -/
theorem nanFolds_not_enforced :
    apply Catalog.builtin "trainingNode" .null
        (.record [("crossValidation", .bool true), ("cvFolds", .number (.real .nan))]) =
      .ok (crossValidated (.real .nan)) ∧
    ∃ field ∈ Kind.training.fields, field.isVisible (crossValidated (.real .nan)) = true ∧
      ¬field.Enforced (Config.value (crossValidated (.real .nan)) field.key) := by
  have known : kind? Catalog.builtin "trainingNode" = some Kind.training := rfl
  have steady := Catalog.steady_builtin (Catalog.of_lookup_builtin known).1 []
  have reset : resetStale Kind.training.fields
      (Ledger.has [("crossValidation", Value.bool true), ("cvFolds", .number (.real .nan))])
      (Ledger.putAll (Kind.training.effective [])
        [("crossValidation", .bool true), ("cvFolds", .number (.real .nan))]) =
        .ok (crossValidated (.real .nan)) := rfl
  have passed := update_of_steps steady reset rfl
  refine ⟨?_, Kind.Training.fields[2], by simp [Kind.training, Kind.Training.fields], rfl, ?_⟩
  · exact (apply_record known none _).trans (congrArg (Except.map _) passed)
  intro enforced
  have ordered := enforced.ordered rfl (.real .nan) rfl (.int 3) List.mem_cons_self
    (.integer 3) rfl
  exact ordered.1 rfl

end Gate

end StageGraph
