import StageGraph.Proofs.Gate.Settling

/-!
# Updates are judged by what they touch

Once the fields are set back, all that is left to complain about are the fields that the
update touches.  So an update is rejected exactly for what it holds, and an empty one
repairs every configuration, as long as everything that is visible can be put into words.
A list of choices may hold an integer that is too long to be written, and where such a
list does not fit, there is neither a repair nor a rejection but a failure.
-/

namespace StageGraph

/-- The message about what a configuration holds for a field, if there is one. -/
def Field.complaint? (field : Field) (config : Config) : Option String :=
  match field.check (Config.value config field.key) with
  | .ok issue => issue
  | .error _ => none

/-- The messages about the visible fields that an update touches, in the order of the
fields. -/
def Kind.complaints (kind : Kind) (touched : String → Bool) (config : Config) : List String :=
  (kind.fields.filter fun field => field.isVisible config && touched field.key).filterMap
    fun field => field.complaint? config

namespace Gate

/-- The update over the completed configuration, before anything is set back. -/
def start (kind : Kind) (current updates : Config) : Config :=
  Ledger.putAll (kind.effective current) updates

/-- The merged configuration after the stale values are set back, told without asking for
words. -/
def mended (kind : Kind) (current updates : Config) : Config :=
  mend kind.fields (Ledger.has updates) (start kind current updates)

/-- A field that is visible in the end has to be judged by a list with a choice that is not
offered and that has no text. -/
def MeetsOverlong (kind : Kind) (current updates : Config) : Prop :=
  ∃ field ∈ kind.fields, field.isVisible (mended kind current updates) = true ∧
    field.isOverlong (Config.value (start kind current updates) field.key) = true

instance (kind : Kind) (current updates : Config) :
    Decidable (MeetsOverlong kind current updates) :=
  inferInstanceAs (Decidable (∃ field ∈ kind.fields, _ ∧ _))

/-- The outcome of an update, told by the merged configuration: every visible field is judged;
the update is rejected when a visible field that it touches is judged not to fit, and then
the issues are the messages about these fields; otherwise the merged values are shown, and
they are accepted. -/
structure JudgesTouched (kind : Kind) (current updates : Config)
    (outcome : Except GateError Config) : Prop where
  merges : merge kind (Ledger.has updates) current updates = .ok (mended kind current updates)
  judged : ∀ field ∈ kind.fields, field.isVisible (mended kind current updates) = true →
    ∃ issue, field.check (Config.value (mended kind current updates) field.key) = .ok issue
  rejects_iff : (∃ rejection, outcome = .error (.rejected rejection)) ↔
    ∃ field ∈ kind.fields, field.isVisible (mended kind current updates) = true ∧
      Ledger.has updates field.key = true ∧ ∃ message,
        field.check (Config.value (mended kind current updates) field.key) = .ok (some message)
  passes_or_rejects :
    (∃ config, outcome = .ok config ∧
      Config.value config = Config.value (mended kind current updates) ∧
      kind.issues config = .ok []) ∨
    outcome = .error (.rejected {
      type := kind.type
      issues := kind.complaints (Ledger.has updates) (mended kind current updates) })

end Gate

/-! ## The issues with settled fields -/

section

variable {kind : Kind} {touched : String → Bool} {config : Config}

/-- A settled field is found wrong only if it is touched. -/
theorem Field.judge_eq_complaint {field : Field} (sound : field.Sound)
    (settled : field.Settled touched config)
    (worded : field.isVisible config = true → touched field.key = true →
      field.isOverlong (Config.value config field.key) = false) :
    field.judge config = .ok
      (if field.isVisible config && touched field.key then field.complaint? config else none) := by
  cases visible : field.isVisible config with
  | false => simp [judge_of_hidden (sound.testable config) visible]
  | true =>
      rw [judge_of_isVisible visible]
      cases isTouched : touched field.key with
      | false => simp [settled isTouched visible]
      | true =>
          obtain ⟨issue, judged, _⟩ := sound.judges _ (worded visible isTouched)
          simp [complaint?, judged]

/-- Of settled fields only the touched ones give cause for complaint. -/
theorem Kind.issuesOf_eq_complaints (sound : ∀ field ∈ kind.fields, field.Sound)
    (settled : ∀ field ∈ kind.fields, field.Settled touched config)
    (worded : ∀ field ∈ kind.fields, field.isVisible config = true →
      touched field.key = true → field.isOverlong (Config.value config field.key) = false) :
    issuesOf kind.fields config = .ok (kind.complaints touched config) := by
  have judged : (kind.fields.mapM fun field : Field => field.judge config) =
      .ok (kind.fields.map fun field =>
        if field.isVisible config && touched field.key then field.complaint? config
        else none) := by
    apply Checked.mapM_eq_ok_iff.mpr
    rw [List.map_map]
    apply List.map_congr_left
    intro field member
    exact Field.judge_eq_complaint (sound field member) (settled field member)
      (worded field member)
  rw [issuesOf, judged, complaints, List.filterMap_filter]
  simp only [Except.map, List.filterMap_map, Function.comp_def, id]

/-- One visible field without words leaves the issues untold. -/
theorem Kind.issuesOf_of_isOverlong (sound : ∀ field ∈ kind.fields, field.Sound)
    {field : Field} (member : field ∈ kind.fields) (visible : field.isVisible config = true)
    (overlong : field.isOverlong (Config.value config field.key) = true) :
    issuesOf kind.fields config = .error .outOfRange := by
  have fails : field.judge config = .error .outOfRange := by
    rw [Field.judge_of_isVisible visible, Field.check_of_isOverlong overlong]
  rw [issuesOf, Checked.mapM_of_fault (fun other inKind _ =>
    (sound other inKind).eq_outOfRange_of_judge) member fails]
  rfl

theorem Kind.complaints_ne_nil_iff :
    kind.complaints touched config ≠ [] ↔
      ∃ field ∈ kind.fields, field.isVisible config = true ∧ touched field.key = true ∧
        ∃ message, field.check (Config.value config field.key) = .ok (some message) := by
  have complains_iff (field : Field) (message : String) :
      field.complaint? config = some message ↔
        field.check (Config.value config field.key) = .ok (some message) := by
    unfold Field.complaint?
    cases field.check (Config.value config field.key) <;> simp
  constructor
  · intro found
    obtain ⟨message, member⟩ := List.exists_mem_of_ne_nil _ found
    obtain ⟨field, kept, complains⟩ := List.mem_filterMap.mp member
    obtain ⟨inKind, both⟩ := List.mem_filter.mp kept
    obtain ⟨visible, isTouched⟩ := Bool.and_eq_true_iff.mp both
    exact ⟨field, inKind, visible, isTouched, message,
      (complains_iff field message).mp complains⟩
  · rintro ⟨field, inKind, visible, isTouched, message, complains⟩
    have kept : field ∈ kind.fields.filter fun field =>
        field.isVisible config && touched field.key :=
      List.mem_filter.mpr ⟨inKind, Bool.and_eq_true_iff.mpr ⟨visible, isTouched⟩⟩
    exact List.ne_nil_of_mem
      (List.mem_filterMap.mpr ⟨field, kept, (complains_iff field message).mpr complains⟩)

end

/-! ## Updates -/

namespace Gate

variable {catalog : Catalog} {type : Value} {kind : Kind} {current updates : Config}

/-- A touched value is judged as the update has it. -/
theorem value_mended {key : String} (touched : Ledger.has updates key = true) :
    Config.value (mended kind current updates) key =
      Config.value (start kind current updates) key :=
  value_mend_of_touched touched kind.fields _

section

variable (settles : Field.Settles kind.fields)

include settles

/-- What is visible in the end and can be put into words is judged. -/
theorem not_isOverlong_mended (worded : ¬ MeetsOverlong kind current updates) {field : Field}
    (member : field ∈ kind.fields)
    (visible : field.isVisible (mended kind current updates) = true) :
    field.isOverlong (Config.value (mended kind current updates) field.key) = false := by
  apply Bool.eq_false_iff.mpr
  intro overlong
  cases touched : Ledger.has updates field.key with
  | true =>
      rw [value_mended touched] at overlong
      exact worded ⟨field, member, visible, overlong⟩
  | false =>
      have fits := settled_mend settles _ _ field member touched visible
      rw [← mended, Field.check_of_isOverlong overlong] at fits
      cases fits

theorem merge_eq_mended (steady : ¬ kind.Stumbles current)
    (worded : ∀ field ∈ kind.fields, Ledger.has updates field.key = false →
      field.isVisible (mended kind current updates) = true →
      field.isOverlong (Config.value (start kind current updates) field.key) = false) :
    merge kind (Ledger.has updates) current updates = .ok (mended kind current updates) := by
  rw [merge_of_steady steady]
  exact resetStale_eq_mend settles worded

/-- Where there are words for everything, the issues with what is merged are the complaints
about what is touched. -/
theorem issues_mended (worded : ¬ MeetsOverlong kind current updates)
    (mergedAs : merge kind (Ledger.has updates) current updates =
      .ok (mended kind current updates)) :
    kind.issues (mended kind current updates) =
      .ok (kind.complaints (Ledger.has updates) (mended kind current updates)) := by
  rw [issues_merge mergedAs]
  exact Kind.issuesOf_eq_complaints settles.sound (settled_mend settles _ _)
    fun field member visible _ => not_isOverlong_mended settles worded member visible

variable {current : Option Config} (known : kind? catalog type = some kind)
  (steady : ¬ kind.Stumbles (current.getD []))

include known steady

/-- Where there are words for everything, an update is judged by what it touches. -/
theorem judgesTouched_of_worded (worded : ¬ MeetsOverlong kind (current.getD []) updates) :
    JudgesTouched kind (current.getD []) updates
      (apply catalog type (.optional current) (.record updates)) := by
  have mergedAs : merge kind (Ledger.has updates) (current.getD []) updates =
      .ok (mended kind (current.getD []) updates) := by
    refine merge_eq_mended settles steady fun field member _ visible => ?_
    exact Bool.eq_false_iff.mpr fun overlong => worded ⟨field, member, visible, overlong⟩
  have judged := update_of_issues mergedAs (issues_mended settles worded mergedAs)
  refine ⟨mergedAs, fun field member visible => ?_, ?_, ?_⟩
  · have hasWords := not_isOverlong_mended settles worded member visible
    obtain ⟨issue, judged, _⟩ := (settles.sound field member).judges _ hasWords
    exact ⟨issue, judged⟩
  · rw [← Kind.complaints_ne_nil_iff, apply_record known, judged]
    split
    · rename_i silent
      simp [silent, Except.map]
    · rename_i complains
      simp [complains, Except.map]
  · by_cases silent : kind.complaints (Ledger.has updates)
        (mended kind (current.getD []) updates) = []
    · left
      rw [if_pos silent] at judged
      have passed := apply_record known current updates
      rw [judged] at passed
      obtain ⟨_, sameMerge, sameValues, completes, noIssue⟩ := of_apply_eq_ok known passed
      rw [mergedAs] at sameMerge
      obtain rfl := Except.ok.inj sameMerge
      have defaults : ∀ field, ¬ Field.Stumbles kind.fields field :=
        fun _ stumbles => steady (.overDefaults stumbles)
      exact ⟨_, passed, sameValues, (completes.issues_eq defaults).trans noIssue⟩
    · right
      rw [apply_record known, judged, if_neg silent]
      rfl

/-- Where words are missing, the gate fails: while it sets back what is stale, or while it
judges what is touched. -/
theorem apply_of_meetsOverlong (meets : MeetsOverlong kind (current.getD []) updates) :
    apply catalog type (.optional current) (.record updates) =
      .error (.unjudged .outOfRange) := by
  rw [apply_record known, update, pass]
  by_cases stale : ∃ field ∈ kind.fields, Ledger.has updates field.key = false ∧
      field.isVisible (mended kind (current.getD []) updates) = true ∧
      field.isOverlong (Config.value (start kind (current.getD []) updates) field.key) = true
  · obtain ⟨field, member, untouched, visible, overlong⟩ := stale
    rw [merge_of_steady steady,
      ← start, resetStale_of_isOverlong settles member untouched visible overlong]
    rfl
  · have mergedAs : merge kind (Ledger.has updates) (current.getD []) updates =
        .ok (mended kind (current.getD []) updates) := by
      refine merge_eq_mended settles steady fun field member untouched visible => ?_
      exact Bool.eq_false_iff.mpr fun overlong =>
        stale ⟨field, member, untouched, visible, overlong⟩
    obtain ⟨field, member, visible, overlong⟩ := meets
    have touched : Ledger.has updates field.key = true := by
      by_contra untouched
      exact stale ⟨field, member, Bool.eq_false_iff.mpr untouched, visible, overlong⟩
    rw [← value_mended touched] at overlong
    rw [mergedAs]
    simp only [issues_merge mergedAs,
      Kind.issuesOf_of_isOverlong settles.sound member visible overlong]
    rfl

end

/-- An update of a built-in type is judged by what it touches, and the empty update repairs
what is stored, exactly where everything that is visible in the end can be put into words;
elsewhere the gate fails. -/
theorem apply_judgesTouched_iff (known : kind? Catalog.builtin type = some kind)
    (current : Option Config) (updates : Config) :
    (JudgesTouched kind (current.getD []) updates
        (apply Catalog.builtin type (.optional current) (.record updates)) ↔
      ¬ MeetsOverlong kind (current.getD []) updates) ∧
    (MeetsOverlong kind (current.getD []) updates →
      apply Catalog.builtin type (.optional current) (.record updates) =
        .error (.unjudged .outOfRange)) ∧
    ((∃ repaired, apply Catalog.builtin type (.optional current) (.record []) = .ok repaired ∧
        kind.issues repaired = .ok []) ↔
      ¬ MeetsOverlong kind (current.getD []) []) := by
  have inCatalog := (Catalog.of_lookup_builtin known).1
  have settles := Catalog.settles_builtin kind inCatalog
  have steady := Catalog.steady_builtin inCatalog (current.getD [])
  have fails {updates : Config} (meets : MeetsOverlong kind (current.getD []) updates) :=
    apply_of_meetsOverlong settles known steady meets
  refine ⟨⟨fun judges meets => ?_, judgesTouched_of_worded settles known steady⟩, fails,
    fun repairs meets => ?_, fun worded => ?_⟩
  · rcases judges.passes_or_rejects with ⟨config, passed, _⟩ | rejected
    · rw [fails meets] at passed
      cases passed
    · rw [fails meets] at rejected
      cases rejected
  · obtain ⟨repaired, passed, _⟩ := repairs
    rw [fails meets] at passed
    cases passed
  · have judges := judgesTouched_of_worded settles known steady worded
    rcases judges.passes_or_rejects with ⟨repaired, passed, _, accepted⟩ | rejected
    · exact ⟨repaired, passed, accepted⟩
    · obtain ⟨field, _, _, touched, _⟩ := judges.rejects_iff.mp ⟨_, rejected⟩
      cases touched

/-- Metrics that do not belong to the evaluation type, as they may be stored. -/
def staleEvaluation : Config :=
  [("evaluationType", "Clustering"), ("metrics", .list ["Accuracy", .null]), ("cvFolds", "many")]

/-- A change of the evaluation type that leaves the metrics alone. -/
def switchedEvaluation : Config :=
  [("evaluationType", "Regression"), ("crossValidation", "yes")]

theorem switchedEvaluation_judged :
    kind? Catalog.builtin "evaluationNode" = some Kind.evaluation ∧
    JudgesTouched Kind.evaluation staleEvaluation switchedEvaluation
      (apply Catalog.builtin "evaluationNode" (.optional (some staleEvaluation))
        (.record switchedEvaluation)) ∧
    ∃ repaired, apply Catalog.builtin "evaluationNode" (.optional (some staleEvaluation))
        (.record []) = .ok repaired ∧
      Kind.evaluation.issues repaired = .ok [] := by
  have known : kind? Catalog.builtin "evaluationNode" = some Kind.evaluation := rfl
  obtain ⟨judges, _, repairs⟩ := apply_judgesTouched_iff known (some staleEvaluation)
    switchedEvaluation
  exact ⟨known, judges.mpr (by decide +kernel), repairs.mpr (by decide +kernel)⟩

/-- Metrics that are an integer of more digits than are written. -/
def overlongEvaluation : Config :=
  [("metrics", .list [.int (Nat.pow 10 5000)])]

/-- The empty update does not repair every configuration, and even less what is none. -/
theorem overlongEvaluation_unjudged :
    apply Catalog.builtin "evaluationNode" (.optional (some overlongEvaluation)) (.record []) =
      .error (.unjudged .outOfRange) ∧
    apply Catalog.builtin "evaluationNode" (.int 5) (.record []) =
      .error (.malformed .notEntries) := by
  have known : kind? Catalog.builtin "evaluationNode" = some Kind.evaluation := rfl
  have inCatalog := (Catalog.of_lookup_builtin known).1
  have meets : MeetsOverlong Kind.evaluation overlongEvaluation [] := by decide +kernel
  refine ⟨?_, rfl⟩
  exact apply_of_meetsOverlong (Catalog.settles_builtin _ inCatalog) known
    (Catalog.steady_builtin inCatalog _) meets

end Gate

end StageGraph
