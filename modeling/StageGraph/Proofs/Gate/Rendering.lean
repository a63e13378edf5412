import StageGraph.Proofs.Gate.Passing
import StageGraph.Proofs.Kind.Bodies
import StageGraph.Proofs.Script.Parts

/-!
# What passes the gate is written

The gate and the templates read a configuration by themselves.  Still, what passes the
gate can be rendered, and a stage that keeps it has a body in every script of its flow.
The exception is an infinite sample of the rows that are loaded: no maximum is
declared for its size, so it passes, and the template cannot make an integer of it.
What has not passed is written no less, whatever values it holds, unless the template
computes beyond the range of numbers: there, or in the share of a split.

All this is about values that have texts.  An integer of more digits than are written has
none, and no template could insert it; JSON brings no such integer in.
-/

namespace StageGraph

namespace Kind

/-- The code of a configuration is given. -/
def Renders (kind : Kind) (config : Config) : Prop :=
  ∃ text, kind.render config = .ok text

/-- In every script of a flow whose ids do not repeat, a stage with the configuration has
a body under its id. -/
def IsWritten (kind : Kind) (config : Config) : Prop :=
  ∀ stage, Catalog.builtin.lookup stage.type = some kind → stage.configuration = config →
    ∀ flow : Flow, (flow.stages.map Stage.id).Nodup → stage ∈ flow.stages →
      ∀ labels, ∃ script, Script.make Catalog.builtin flow labels = .ok script ∧
        ∃ body, Ledger.get? script.bodies stage.id = some body

variable {kind : Kind} {config : Config}

theorem isWritten_of_answers (answers : Answers (kind.render config)) :
    kind.IsWritten config := by
  rintro stage found rfl flow nodup member labels
  obtain ⟨text, rendered, inhabited⟩ := answers
  obtain ⟨script, made⟩ :=
    Script.exists_make_eq_ok Catalog.givesCode_builtin flow labels
  obtain ⟨_, rfl⟩ := Script.make_eq_ok_iff.mp made
  have block : Script.block? Catalog.builtin stage = some (Block.ofText text) :=
    Script.block?_eq_some_iff.mpr ⟨kind, text, found, rendered, rfl⟩
  have body := Script.bodyOf?_eq_some_iff.mpr ⟨_, block, inhabited, rfl⟩
  exact ⟨_, made, _, (Script.get?_bodies_ofFlow nodup member).trans body⟩

theorem not_renders_of_error {failure : Failure}
    (failed : kind.render config = .error failure) : ¬ kind.Renders config := by
  rintro ⟨text, rendered⟩
  rw [failed] at rendered
  cases rendered

/-- Whatever values a configuration holds, if only they have texts, its code is given unless
the template computes beyond the range of numbers; and code that is given has a body in every
script. -/
theorem renders_unless_exceeds (builtin : kind ∈ Catalog.builtinKinds) (given : Config)
    (_ : given.hasTexts = true) :
    (¬ kind.Renders given ↔ kind.Exceeds (kind.effective given)) ∧
    ∀ text, kind.render given = .ok text →
      (Block.ofText text).body ≠ [] ∧ kind.IsWritten given := by
  by_cases exceeds : kind.Exceeds (kind.effective given)
  · have failed : kind.render given = .error .outOfRange :=
      (render_builtin builtin given).trans (template_of_exceeds builtin exceeds)
    refine ⟨iff_of_true (not_renders_of_error failed) exceeds, fun text rendered => ?_⟩
    exact (not_renders_of_error failed ⟨text, rendered⟩).elim
  · have answers : Answers (kind.render given) :=
      (render_builtin builtin given).symm ▸ answers_of_not_exceeds builtin exceeds
    have written := isWritten_of_answers answers
    obtain ⟨text, rendered, inhabited⟩ := answers
    refine ⟨iff_of_false (not_not.mpr ⟨text, rendered⟩) exceeds, fun other same => ?_⟩
    obtain rfl : text = other := Except.ok.inj (rendered.symm.trans same)
    exact ⟨inhabited, written⟩

/-- Sizes whose quotient is just beyond the range. -/
def hugeValidation : Config :=
  [("validationSize", .int Binary.rangeLimit), ("trainSize", .int 1)]

theorem hugeValidation_exceeds :
    dataSplit.Exceeds (dataSplit.effective hugeValidation) := by
  have limitPositive : (0 : Int) < Binary.rangeLimit := by
    exact_mod_cast Nat.lt_of_succ_lt Binary.one_lt_rangeLimit
  have positive : (Number.integer Binary.rangeLimit).isPositive = true := by
    simpa [Number.isPositive, Number.less, Number.ratio?] using limitPositive
  have overflows : Number.Overflows (.integer Binary.rangeLimit) (.integer 1) :=
    (mul_one (Binary.rangeLimit : Int)).le
  exact .inr ⟨rfl, _, _, rfl, rfl, positive, rfl, overflows⟩

/-- A count of rows and a source of wrong types. -/
def mistypedSource : Config :=
  [("sampleSize", "many"), ("sourceType", .list [.null])]

theorem mistypedSource_not_exceeds : ¬ ingest.Exceeds (ingest.effective mistypedSource) := by
  rintro (⟨_, unbounded⟩ | ⟨isSplit, _⟩)
  · cases unbounded
  · exact absurd isSplit (by decide)

theorem mistyped_rendered_huge_not :
    dataSplit ∈ Catalog.builtinKinds ∧ hugeValidation.hasTexts = true ∧
    ¬ dataSplit.Renders hugeValidation ∧
    ingest ∈ Catalog.builtinKinds ∧ mistypedSource.hasTexts = true ∧
    ingest.Renders mistypedSource ∧ ingest.IsWritten mistypedSource := by
  have isSplit : dataSplit ∈ Catalog.builtinKinds := List.mem_of_getElem? (i := 4) rfl
  have isIngest : ingest ∈ Catalog.builtinKinds := List.mem_cons_self
  have hugeTexts : hugeValidation.hasTexts = true := by decide +kernel
  have mistypedTexts : mistypedSource.hasTexts = true := by decide
  obtain ⟨splitFails, _⟩ := renders_unless_exceeds isSplit hugeValidation hugeTexts
  obtain ⟨ingestFails, writes⟩ := renders_unless_exceeds isIngest mistypedSource mistypedTexts
  obtain ⟨text, rendered⟩ := not_not.mp (mt ingestFails.mp mistypedSource_not_exceeds)
  exact ⟨isSplit, hugeTexts, splitFails.mpr hugeValidation_exceeds, isIngest, mistypedTexts,
    ⟨text, rendered⟩, (writes text rendered).2⟩

/-- A configuration without code leaves its stage out, even when it stands alone. -/
theorem not_isWritten_of_error {type : String} {failure : Failure}
    (found : Catalog.builtin.lookup type = some kind)
    (failed : kind.render config = .error failure) : ¬ kind.IsWritten config := by
  intro written
  let stage : Stage := { id := "", type := type, configuration := config }
  have nodup : ((Flow.single stage).stages.map Stage.id).Nodup := List.nodup_singleton _
  have member : stage ∈ (Flow.single stage).stages := List.mem_cons_self
  obtain ⟨script, made, body, held⟩ :=
    written stage found rfl (Flow.single stage) nodup member true
  obtain ⟨_, rfl⟩ := Script.make_eq_ok_iff.mp made
  rw [Script.get?_bodies_ofFlow nodup member] at held
  obtain ⟨block, blockFound, _⟩ := Script.bodyOf?_eq_some_iff.mp held
  obtain ⟨other, text, otherFound, rendered, _⟩ := Script.block?_eq_some_iff.mp blockFound
  obtain rfl := Option.some.inj (found.symm.trans otherFound)
  exact not_renders_of_error failed ⟨text, rendered⟩

end Kind

namespace Gate

variable {type : Value} {current : Option Config} {updates config : Config}

/-- Whatever the gate lets pass, if only its values have texts, is rendered, and written in
every script, unless it asks for an infinite sample. -/
theorem apply_written_iff
    (passed : apply Catalog.builtin type (.optional current) (.record updates) = .ok config)
    (_ : config.hasTexts = true) :
    ∃ kind, kind? Catalog.builtin type = some kind ∧
      (kind.Renders config ↔ ¬ kind.Overflows config) ∧
      (kind.IsWritten config ↔ ¬ kind.Overflows config) := by
  obtain ⟨kind, known⟩ := exists_kind_of_apply_eq_ok passed
  obtain ⟨_, _, _, completes, noIssue⟩ := of_apply_eq_ok known passed
  have builtin := (Catalog.of_lookup_builtin known).1
  have sameValues := completes.value_effective
  have accepts : kind.Accepts (kind.effective config) := by
    apply Kind.accepts_of_issuesOf_eq_nil
    rw [← noIssue]
    exact Kind.issuesOf_congr sameValues kind.fields
  have sameRange : kind.Overflows (kind.effective config) ↔ kind.Overflows config := by
    unfold Kind.Overflows Kind.Ingest.IsUnbounded
    rw [sameValues]
  refine ⟨kind, known, ?_⟩
  by_cases overflows : kind.Overflows config
  · have failed : kind.render config = .error .outOfRange :=
      (Kind.render_builtin builtin config).trans
        (Kind.template_of_overflows builtin (sameRange.mpr overflows))
    have unrendered := Kind.not_renders_of_error failed
    have unwritten := Kind.not_isWritten_of_error known failed
    simp [overflows, unwritten, unrendered]
  · have answers : Kind.Answers (kind.render config) :=
      (Kind.render_builtin builtin config).symm ▸
        Kind.answers_template builtin accepts (mt sameRange.mp overflows)
    have written := Kind.isWritten_of_answers answers
    obtain ⟨text, rendered, _⟩ := answers
    have renders : kind.Renders config := ⟨text, rendered⟩
    simp [overflows, written, renders]

/-- A table that is loaded from a file, with so many rows as a sample. -/
def loading (rows : Number) : Config :=
  [("label", "Data Ingest"), ("sourceType", "CSV"), ("filePath", ""), ("delimiter", ","),
    ("dataType", "Tabular"), ("targetColumn", ""), ("sampleSize", .number rows),
    ("schemaKnown", .bool true), ("connectionString", "sqlite:///database.db"),
    ("query", "SELECT * FROM table_name")]

theorem apply_written_iff_hundredRows :
    apply Catalog.builtin "ingestNode" (.optional (some (loading (.integer 0))))
        (.record [("sampleSize", .int 100)]) = .ok (loading (.integer 100)) ∧
    (loading (.integer 100)).hasTexts = true ∧
    ∃ kind, kind? Catalog.builtin "ingestNode" = some kind ∧
      (kind.Renders (loading (.integer 100)) ↔ ¬ kind.Overflows (loading (.integer 100))) ∧
      (kind.IsWritten (loading (.integer 100)) ↔
        ¬ kind.Overflows (loading (.integer 100))) := by
  have steady := Catalog.steady_builtin List.mem_cons_self (loading (.integer 0))
  have reset : resetStale Kind.ingest.fields (Ledger.has [("sampleSize", Value.int 100)])
      (Ledger.putAll (Kind.ingest.effective (loading (.integer 0))) [("sampleSize", .int 100)]) =
        .ok (loading (.integer 100)) := rfl
  have passed : apply Catalog.builtin "ingestNode" (.optional (some (loading (.integer 0))))
      (.record [("sampleSize", .int 100)]) = .ok (loading (.integer 100)) :=
    (apply_eq_update rfl (by decide) _).trans (update_of_steps steady reset rfl)
  have texts : (loading (.integer 100)).hasTexts = true := by decide +kernel
  exact ⟨passed, texts, apply_written_iff passed texts⟩

/-- An infinite sample passes, although nothing can be written for it. -/
theorem infiniteRows_not_written :
    apply Catalog.builtin "ingestNode" .null
        (.record [("sampleSize", .number (.real (.infinity false)))]) =
      .ok (loading (.real (.infinity false))) ∧
    kind? Catalog.builtin "ingestNode" = some .ingest ∧
    ¬ Kind.ingest.Renders (loading (.real (.infinity false))) ∧
    ¬ Kind.ingest.IsWritten (loading (.real (.infinity false))) := by
  have builtin : Kind.ingest ∈ Catalog.builtinKinds := List.mem_cons_self
  have failed : Kind.ingest.render (loading (.real (.infinity false))) =
      .error .outOfRange :=
    (Kind.render_builtin builtin _).trans (Kind.template_of_overflows builtin ⟨rfl, rfl⟩)
  have known : kind? Catalog.builtin "ingestNode" = some .ingest := rfl
  have reset : resetStale Kind.ingest.fields
      (Ledger.has [("sampleSize", Value.number (.real (.infinity false)))])
      (Ledger.putAll (Kind.ingest.effective [])
        [("sampleSize", .number (.real (.infinity false)))]) =
        .ok (loading (.real (.infinity false))) := rfl
  have emptyNodup : (Ledger.keys ((none : Option Config).getD [])).Nodup := List.nodup_nil
  have passed := (apply_eq_update known emptyNodup _).trans
    (update_of_steps (Catalog.steady_builtin builtin []) reset rfl)
  exact ⟨passed, known, Kind.not_renders_of_error failed,
    Kind.not_isWritten_of_error known failed⟩

end Gate

end StageGraph
