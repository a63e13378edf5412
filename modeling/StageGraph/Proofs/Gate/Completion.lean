import StageGraph.Proofs.Gate.Testing

/-!
# Completed configurations

A completed configuration has a value under the key of every field of its kind.
Completing it once more changes no value, and setting fields back leaves it complete.
Fields see nothing of a configuration but its values, so the issues with a completed
configuration are found in it as it is, and what the gate lets pass is shown as it was
judged.
-/

namespace StageGraph

theorem Config.value_put (config : Config) (key : String) (value : Value) (name : String) :
    Config.value (Ledger.put config key value) name =
      if key = name then value else Config.value config name := by
  unfold Config.value
  rw [Ledger.get?_put]
  split <;> rfl

theorem Value.agrees_text_iff {value : Value} {content : String} :
    value.agrees (.text content) = true ↔ value.asText? = some content := by
  cases value <;> simp [Value.agrees, Value.asText?]

theorem Value.agrees_text (value : Value) (content : String) :
    value.agrees (.text content) = decide (value.asText? = some content) := by
  rw [Bool.eq_iff_iff, agrees_text_iff, decide_eq_true_iff]

/-! ## What fields see of a configuration -/

section

variable {config other : Config} {field : Field}

/-- The key whose value decides whether a field is visible. -/
def Field.driver? (field : Field) : Option String :=
  field.condition.bind fun condition => condition.key.asText?

theorem Field.valueUnder_congr {condition : Condition} (given : field.condition = some condition)
    (same : ∀ driver, field.driver? = some driver →
      Config.value config driver = Config.value other driver) :
    Config.valueUnder config condition.key = Config.valueUnder other condition.key := by
  unfold Config.valueUnder
  cases spelled : condition.key.asText? with
  | none => rfl
  | some driver =>
      have drives : field.driver? = some driver := by
        simp [Field.driver?, given, spelled]
      exact congrArg (fun value => (some value).getD Value.null) (same driver drives)

theorem Field.isTestable_congr
    (same : ∀ driver, field.driver? = some driver →
      Config.value config driver = Config.value other driver) :
    field.isTestable config = field.isTestable other := by
  unfold Field.isTestable
  cases given : field.condition with
  | none => rfl
  | some condition =>
      simp only [Option.all_some, Condition.isTestable, Field.valueUnder_congr given same]

theorem Field.isVisible_congr
    (same : ∀ driver, field.driver? = some driver →
      Config.value config driver = Config.value other driver) :
    field.isVisible config = field.isVisible other := by
  unfold Field.isVisible
  cases given : field.condition with
  | none => rfl
  | some condition =>
      simp only [Condition.holds, Condition.isTestable, Field.valueUnder_congr given same]

theorem Field.isVisible_put {key : String} {value : Value}
    (undriven : field.driver? ≠ some key) :
    field.isVisible (Ledger.put config key value) = field.isVisible config := by
  apply Field.isVisible_congr
  intro driver drives
  have different : key ≠ driver := by
    rintro rfl
    exact undriven drives
  rw [Config.value_put, if_neg different]

theorem Field.judge_congr (same : Config.value config = Config.value other) (field : Field) :
    field.judge config = field.judge other := by
  have sameTest : field.isTestable config = field.isTestable other :=
    Field.isTestable_congr fun driver _ => congrFun same driver
  have sameShown : field.isVisible config = field.isVisible other :=
    Field.isVisible_congr fun driver _ => congrFun same driver
  rw [Field.judge, Field.judge, Field.shows, Field.shows, sameTest, sameShown, same]

theorem Kind.issuesOf_congr (same : Config.value config = Config.value other)
    (fields : List Field) : issuesOf fields config = issuesOf fields other := by
  have sameJudgment : (fun field : Field => field.judge config) =
      fun field : Field => field.judge other := funext (Field.judge_congr same)
  rw [issuesOf, sameJudgment, issuesOf]

end

/-- Everything that is visible under a configuration fits. -/
def Kind.Accepts (kind : Kind) (config : Config) : Prop :=
  ∀ field ∈ kind.fields, field.isVisible config = true →
    field.check (Config.value config field.key) = .ok none

/-- Where there is no issue, every field has been judged to fit. -/
theorem Kind.judge_of_issuesOf_eq_nil {fields : List Field} {config : Config}
    (noIssue : issuesOf fields config = .ok []) {field : Field} (member : field ∈ fields) :
    field.judge config = .ok none := by
  obtain ⟨checks, judged, silent⟩ := Checked.map_eq_ok noIssue
  have listed : field.judge config ∈ checks.map Except.ok := by
    rw [← Checked.mapM_eq_ok_iff.mp judged]
    exact List.mem_map_of_mem member
  obtain ⟨issue, issueMember, given⟩ := List.mem_map.mp listed
  have none : issue = none := List.filterMap_eq_nil_iff.mp silent issue issueMember
  rw [← given, none]

theorem Kind.accepts_of_issuesOf_eq_nil {kind : Kind} {config : Config}
    (noIssue : issuesOf kind.fields config = .ok []) : kind.Accepts config := by
  intro field member visible
  rw [← Field.judge_of_isVisible visible]
  exact judge_of_issuesOf_eq_nil noIssue member

/-! ## Defaults -/

namespace Field

theorem mem_keys_fillOpen {fields : List Field} {known : Config} {key : String} :
    key ∈ Ledger.keys (fillOpen fields known) ↔
      key ∈ Ledger.keys known ∨ ∃ field ∈ fields, field.key = key := by
  induction fields generalizing known with
  | nil => simp [fillOpen]
  | cons field rest induction =>
      have step : fillOpen (field :: rest) known =
          fillOpen rest (Ledger.putNew known field.key field.initial) := rfl
      simp only [step, induction, Ledger.mem_keys_putNew, List.mem_cons, exists_eq_or_imp]
      tauto

theorem nodup_keys_defaults (fields : List Field) : (Ledger.keys (defaults fields)).Nodup := by
  have visible : (Ledger.keys (fillVisible fields [])).Nodup := by
    refine List.foldlRecOn fields _ (motive := fun known => (Ledger.keys known).Nodup)
      List.nodup_nil ?_
    intro known nodup field _
    split
    · exact nodup
    · split
      · exact Ledger.nodup_keys_put nodup _ _
      · exact nodup
  refine List.foldlRecOn fields _ (motive := fun known => (Ledger.keys known).Nodup) visible ?_
  intro known nodup field _
  exact Ledger.nodup_keys_putNew nodup _ _

end Field

namespace Kind

theorem nodup_keys_defaults (kind : Kind) : (Ledger.keys kind.defaults).Nodup := by
  have labelled : (Ledger.keys [("label", kind.label)]).Nodup :=
    List.nodup_cons.mpr ⟨List.not_mem_nil, List.nodup_nil⟩
  exact Ledger.nodup_keys_putAll labelled _

theorem key_mem_defaults {kind : Kind} {field : Field} (member : field ∈ kind.fields) :
    field.key ∈ Ledger.keys kind.defaults := by
  apply Ledger.mem_keys_putAll.mpr
  exact .inr (Field.mem_keys_fillOpen.mpr (.inr ⟨field, member, rfl⟩))

/-! ## Completed configurations -/

/-- A configuration has the keys that are given and those of the defaults, each once. -/
structure Completes (kind : Kind) (given : List String) (config : Config) : Prop where
  nodup : (Ledger.keys config).Nodup
  mem_keys_iff : ∀ key,
    key ∈ Ledger.keys config ↔ key ∈ Ledger.keys kind.defaults ∨ key ∈ given

namespace Completes

variable {kind : Kind} {given : List String} {config : Config}

/-- Writing a key of the defaults brings no new key. -/
theorem put (completes : kind.Completes given config) {key : String}
    (known : key ∈ Ledger.keys kind.defaults) (value : Value) :
    kind.Completes given (Ledger.put config key value) := by
  refine ⟨Ledger.nodup_keys_put completes.nodup key value, fun other => ?_⟩
  rw [Ledger.mem_keys_put, completes.mem_keys_iff]
  constructor
  · rintro (rfl | member)
    · exact .inl known
    · exact member
  · exact .inr

theorem putAll (completes : kind.Completes given config) (updates : Config) :
    kind.Completes (given ++ Ledger.keys updates) (Ledger.putAll config updates) := by
  refine ⟨Ledger.nodup_keys_putAll completes.nodup updates, fun key => ?_⟩
  rw [Ledger.mem_keys_putAll, completes.mem_keys_iff, List.mem_append, or_assoc]

end Completes

/-- What holds while defaults are written under keys that are not given holds of filled
branches. -/
theorem fillBranches_induction {fields : List Field} {given merged : Config}
    {motive : Config → Prop} (start : motive merged)
    (fill : ∀ field ∈ fields, ∀ config, motive config → Ledger.has given field.key = false →
      motive (Ledger.put config field.key field.initial)) :
    motive (fillBranches fields given merged) := by
  refine List.foldlRecOn fields _ start ?_
  intro config holds field member
  split
  · rename_i taken
    exact fill field member config holds (by simp_all)
  · exact holds

theorem completes_effective (kind : Kind) (given : Config) :
    kind.Completes (Ledger.keys given) (kind.effective given) := by
  have merged : kind.Completes (Ledger.keys given) (Ledger.putAll kind.defaults given) :=
    ⟨Ledger.nodup_keys_putAll kind.nodup_keys_defaults given, fun key =>
      Ledger.mem_keys_putAll⟩
  apply fillBranches_induction merged
  intro field member config completes _
  exact completes.put (key_mem_defaults member) _

theorem Completes.mem_of_field {kind : Kind} {given : List String} {config : Config}
    (completes : kind.Completes given config) {field : Field} (member : field ∈ kind.fields) :
    field.key ∈ Ledger.keys config :=
  (completes.mem_keys_iff field.key).mpr (.inl (key_mem_defaults member))

/-- No branch is open when every field has a value. -/
theorem fillBranches_of_given {fields : List Field} {given : Config}
    (filled : ∀ field ∈ fields, field.key ∈ Ledger.keys given) (merged : Config) :
    fillBranches fields given merged = merged := by
  apply fillBranches_induction (motive := (· = merged)) rfl
  intro field member config _ isOpen
  rw [Ledger.has_eq_true_iff.mpr (filled field member)] at isOpen
  cases isOpen

/-- Branches are filled under keys that are not given. -/
theorem get?_fillBranches {fields : List Field} {given merged : Config} {key : String}
    (spared : ∀ field ∈ fields, field.key = key → Ledger.has given key = true) :
    Ledger.get? (fillBranches fields given merged) key = Ledger.get? merged key := by
  apply fillBranches_induction (motive := fun config =>
    Ledger.get? config key = Ledger.get? merged key) rfl
  intro field member config same isOpen
  have different : field.key ≠ key := by
    rintro rfl
    rw [spared field member rfl] at isOpen
    cases isOpen
  rw [Ledger.get?_put, if_neg different, same]

theorem keys_fillBranches {fields : List Field} {given merged : Config}
    (known : ∀ field ∈ fields, field.key ∈ Ledger.keys merged) :
    Ledger.keys (fillBranches fields given merged) = Ledger.keys merged := by
  apply fillBranches_induction (motive := fun config =>
    Ledger.keys config = Ledger.keys merged) rfl
  intro field member config sameKeys _
  rw [Ledger.keys_put_of_mem (sameKeys ▸ known field member), sameKeys]

/-- Completing a completed configuration changes no value. -/
theorem Completes.value_effective {kind : Kind} {given : List String} {config : Config}
    (completes : kind.Completes given config) :
    Config.value (kind.effective config) = Config.value config := by
  funext key
  rw [Kind.effective, fillBranches_of_given fun field => completes.mem_of_field]
  unfold Config.value
  rw [Ledger.get?_putAll completes.nodup]
  cases found : Ledger.get? config key with
  | some value => rfl
  | none =>
      have unknown : key ∉ Ledger.keys kind.defaults := fun member =>
        Ledger.get?_eq_none_iff.mp found ((completes.mem_keys_iff key).mpr (.inl member))
      rw [Ledger.get?_eq_none_iff.mpr unknown]
      rfl

/-- No branch of a completed configuration is open, so at most the defaults are stumbled over. -/
theorem Completes.steady {kind : Kind} {given : List String} {config : Config}
    (completes : kind.Completes given config)
    (defaults : ∀ field, ¬ Field.Stumbles kind.fields field) : ¬ kind.Stumbles config := by
  rintro (⟨stumbles⟩ | ⟨split, isOpen, _⟩)
  · exact defaults _ stumbles
  · exact isOpen (completes.mem_of_field (split ▸ List.mem_append_right _ List.mem_cons_self))

theorem Completes.issues_eq {kind : Kind} {given : List String} {config : Config}
    (completes : kind.Completes given config)
    (defaults : ∀ field, ¬ Field.Stumbles kind.fields field) :
    kind.issues config = issuesOf kind.fields config := by
  rw [issues_of_steady (completes.steady defaults)]
  exact issuesOf_congr completes.value_effective kind.fields

end Kind

/-! ## What the gate makes of a completed configuration -/

section

variable {kind : Kind} {given : List String} {touched : String → Bool} {config merged : Config}

/-- A field is left as it is, or it is visible and not touched and set back to its
default. -/
theorem Gate.resetField_cases {field : Field}
    (done : Gate.resetField touched config field = .ok merged) :
    merged = config ∨ (touched field.key = false ∧ field.isVisible config = true ∧
      merged = Ledger.put config field.key field.initial) := by
  unfold Gate.resetField at done
  split at done
  · exact .inl (Except.ok.inj done).symm
  · rename_i untouched
    obtain ⟨issue, judged, rfl⟩ := Checked.map_eq_ok done
    split
    · rename_i complains
      right
      refine ⟨Bool.eq_false_iff.mpr untouched, ?_, rfl⟩
      -- A hidden field has no issue.
      by_contra hidden
      have testable := Field.isTestable_of_judge judged
      rw [Field.judge_of_hidden testable (Bool.eq_false_iff.mpr hidden)] at judged
      rw [← Except.ok.inj judged] at complains
      cases complains
    · exact .inl rfl

/-- What holds while defaults are written under keys that are not touched holds after
setting back. -/
theorem Gate.resetStale_induction {fields : List Field} {motive : Config → Prop}
    (start : motive config)
    (reset : ∀ field ∈ fields, ∀ known, motive known → touched field.key = false →
      motive (Ledger.put known field.key field.initial))
    (done : Gate.resetStale fields touched config = .ok merged) : motive merged := by
  induction fields generalizing config with
  | nil =>
      obtain rfl := Except.ok.inj done
      exact start
  | cons field rest induction =>
      rw [Gate.resetStale, List.foldlM_cons] at done
      obtain ⟨next, changed, later⟩ := Checked.bind_eq_ok done
      refine induction ?_ (fun other member => reset other (List.mem_cons_of_mem _ member)) later
      rcases Gate.resetField_cases changed with rfl | ⟨untouched, _, rfl⟩
      · exact start
      · exact reset field List.mem_cons_self config start untouched

theorem Kind.Completes.resetStale {fields : List Field}
    (members : ∀ field ∈ fields, field ∈ kind.fields)
    (completes : kind.Completes given config)
    (done : Gate.resetStale fields touched config = .ok merged) :
    kind.Completes given merged := by
  refine Gate.resetStale_induction completes ?_ done
  intro field member known completed _
  exact completed.put (Kind.key_mem_defaults (members field member)) _

/-- A key that is touched or that no field has is not set back. -/
theorem Gate.get?_resetStale {fields : List Field} {key : String}
    (spared : ∀ field ∈ fields, field.key = key → touched key = true)
    (done : Gate.resetStale fields touched config = .ok merged) :
    Ledger.get? merged key = Ledger.get? config key := by
  refine Gate.resetStale_induction (motive := fun next =>
    Ledger.get? next key = Ledger.get? config key) rfl ?_ done
  intro field member known same untouched
  have different : field.key ≠ key := by
    rintro rfl
    rw [spared field member rfl] at untouched
    cases untouched
  rw [Ledger.get?_put, if_neg different, same]

theorem Gate.keys_resetStale {fields : List Field}
    (known : ∀ field ∈ fields, field.key ∈ Ledger.keys config)
    (done : Gate.resetStale fields touched config = .ok merged) :
    Ledger.keys merged = Ledger.keys config := by
  refine Gate.resetStale_induction (motive := fun next =>
    Ledger.keys next = Ledger.keys config) rfl ?_ done
  intro field member next sameKeys _
  rw [Ledger.keys_put_of_mem (sameKeys ▸ known field member), sameKeys]

/-- What is merged is a current configuration that can be completed, with the update over it
and set back. -/
theorem Gate.of_merge_eq_ok {current updates : Config}
    (done : Gate.merge kind touched current updates = .ok merged) :
    ¬ kind.Stumbles current ∧
      Gate.resetStale kind.fields touched (Ledger.putAll (kind.effective current) updates) =
        .ok merged := by
  unfold Gate.merge at done
  split at done
  · cases done
  · rename_i completed complete
    obtain rfl := Kind.eq_effective_of_complete complete
    exact ⟨Kind.steady_of_complete complete, done⟩

theorem Gate.merge_of_steady {current : Config} (steady : ¬ kind.Stumbles current)
    (updates : Config) :
    Gate.merge kind touched current updates =
      Gate.resetStale kind.fields touched
        (Ledger.putAll (kind.effective current) updates) := by
  rw [Gate.merge, Kind.complete_of_steady steady]

theorem Gate.completes_merge {current updates : Config}
    (done : Gate.merge kind touched current updates = .ok merged) :
    kind.Completes (Ledger.keys current ++ Ledger.keys updates) merged :=
  ((kind.completes_effective current).putAll updates).resetStale (fun _ => id)
    (Gate.of_merge_eq_ok done).2

/-- What is merged is steady, since its defaults have been taken already. -/
theorem Gate.steady_merge {current updates : Config}
    (done : Gate.merge kind touched current updates = .ok merged) : ¬ kind.Stumbles merged :=
  (Gate.completes_merge done).steady fun _ stumbles =>
    (Gate.of_merge_eq_ok done).1 (.overDefaults stumbles)

theorem Gate.issues_merge {current updates : Config}
    (done : Gate.merge kind touched current updates = .ok merged) :
    kind.issues merged = Kind.issuesOf kind.fields merged :=
  (Gate.completes_merge done).issues_eq fun _ stumbles =>
    (Gate.of_merge_eq_ok done).1 (.overDefaults stumbles)

end

/-! ## Configurations given as records -/

/-- A configuration that may be left out. -/
def Value.optional (given : Option Config) : Value :=
  (given.map Value.record).getD .null

namespace Entries

theorem named_ofConfig (config : Config) : (ofConfig config).named = config := by
  rw [named, ofConfig, List.filterMap_map]
  exact List.filterMap_some

theorem ofConfig_put (config : Config) (key : String) (value : Value) :
    Value.putUnder (ofConfig config).pairs (.text key) value =
      (ofConfig (Ledger.put config key value)).pairs := by
  induction config with
  | nil => rfl
  | cons entry rest induction =>
      obtain ⟨name, held⟩ := entry
      simp only [ofConfig] at induction
      by_cases same : name = key
      · simp [ofConfig, Value.putUnder, Value.agrees, Ledger.put, same]
      · simp [ofConfig, Value.putUnder, Value.agrees, Ledger.put, same, induction]

theorem ofConfig_putAll (config updates : Config) :
    (ofConfig config).putAll (ofConfig updates) = ofConfig (Ledger.putAll config updates) := by
  induction updates generalizing config with
  | nil => rfl
  | cons entry rest induction =>
      have step : Ledger.putAll config (entry :: rest) =
          Ledger.putAll (Ledger.put config entry.1 entry.2) rest := rfl
      rw [step, ← induction]
      simp only [putAll, ofConfig, List.map_cons, List.foldl_cons]
      congr 2
      exact ofConfig_put config entry.1 entry.2

theorem ofOptional_optional (given : Option Config) :
    ofOptional (.optional given) = .ok (ofConfig (given.getD [])) := by
  cases given with
  | none => rfl
  | some config => cases config <;> rfl

/-- Under texts the entries are shown in the order of the defaults and then in their own. -/
theorem shown_ofConfig (given : Config) (initial : List String) (config : Config) :
    (ofConfig given).shown initial config =
      Ledger.putAll [] (Ledger.tabulate
        (initial ++ (Ledger.keys given).filter (!initial.contains ·)) config.value) := by
  simp [shown, ofConfig, Ledger.tabulate, Ledger.keys, List.filter_map, Function.comp_def,
    Value.asText?, Value.display]

end Entries

namespace Gate

section

variable {kind : Kind} {keys : List String} {given config : Config}

theorem value_shown (completes : kind.Completes keys config)
    (covers : ∀ key, key ∈ Ledger.keys given ↔ key ∈ keys) :
    Config.value (shown kind (Entries.ofConfig given) config) = Config.value config := by
  funext key
  unfold Gate.shown
  rw [Entries.shown_ofConfig, Config.value, Ledger.get?_putAll_tabulate]
  split
  · rfl
  · rename_i unlisted
    have absent : key ∉ Ledger.keys config := by
      intro member
      apply unlisted
      rcases (completes.mem_keys_iff key).mp member with known | added
      · exact List.mem_append_left _ known
      · by_cases known : key ∈ Ledger.keys kind.defaults
        · exact List.mem_append_left _ known
        · exact List.mem_append_right _ (List.mem_filter.mpr
            ⟨(covers key).mpr added, by simpa using known⟩)
    rw [Config.value, Ledger.get?_eq_none_iff.mpr absent]
    rfl

theorem completes_shown (covers : ∀ key, key ∈ Ledger.keys given ↔ key ∈ keys)
    (config : Config) : kind.Completes keys (shown kind (Entries.ofConfig given) config) := by
  unfold Gate.shown
  rw [Entries.shown_ofConfig]
  have emptyNodup : (Ledger.keys ([] : Config)).Nodup := List.nodup_nil
  have noKey (key : String) : key ∉ Ledger.keys ([] : Config) := List.not_mem_nil
  refine ⟨Ledger.nodup_keys_putAll emptyNodup _, fun key => ?_⟩
  rw [Ledger.mem_keys_putAll, Ledger.keys_tabulate, List.mem_append, List.mem_filter, covers]
  by_cases known : key ∈ Ledger.keys kind.defaults <;> simp [known, noKey key]

end

variable {catalog : Catalog} {type : Value} {kind : Kind} {current : Option Config}
  {given updates config : Config}

/-- An update of a record by a record is judged by the kind, and what passes is shown. -/
theorem apply_record (known : kind? catalog type = some kind) (current : Option Config)
    (updates : Config) :
    apply catalog type (.optional current) (.record updates) =
      (update kind (current.getD []) updates).map
        (shown kind (Entries.ofConfig (Ledger.putAll (current.getD []) updates))) := by
  have touched : (Value.record updates).offers = Ledger.has updates := rfl
  have read : Entries.ofValue (.record updates) = .ok (Entries.ofConfig updates) := rfl
  simp only [apply, accept, known, Entries.ofOptional_optional, read, Entries.named_ofConfig,
    touched, Entries.ofConfig_putAll, update]
  cases pass kind (Ledger.has updates) (current.getD []) updates <;> rfl

/-- What is found wrong with the merged configuration decides about the update. -/
theorem update_of_issues {current merged : Config} {issues : List String}
    (mergedAs : merge kind (Ledger.has updates) current updates = .ok merged)
    (found : kind.issues merged = .ok issues) :
    update kind current updates =
      if issues = [] then .ok merged
      else .error (.rejected { type := kind.type, issues := issues }) := by
  rw [update, pass, mergedAs]
  simp only [found]
  cases issues <;> simp

/-- An update passes step by step: it is put over the completed configuration and set back,
and nothing is found wrong then. -/
theorem update_of_steps {current merged : Config} (steady : ¬ kind.Stumbles current)
    (reset : resetStale kind.fields (Ledger.has updates)
      (Ledger.putAll (kind.effective current) updates) = .ok merged)
    (accepted : Kind.issuesOf kind.fields merged = .ok []) :
    update kind current updates = .ok merged := by
  have mergedAs := (merge_of_steady steady updates).trans reset
  rw [update_of_issues mergedAs ((issues_merge mergedAs).trans accepted), if_pos rfl]

theorem of_update_eq_ok {merged : Config}
    (passed : update kind given updates = .ok merged) :
    merge kind (Ledger.has updates) given updates = .ok merged ∧
      kind.issues merged = .ok [] := by
  unfold update pass at passed
  split at passed
  · cases passed
  · rename_i result mergedAs
    split at passed
    · cases passed
    · rename_i noIssue
      obtain rfl := Except.ok.inj passed
      exact ⟨mergedAs, noIssue⟩
    · cases passed

/-- A configuration is accepted when it fits as far as it is completed. -/
theorem issues_eq_nil (known : kind? catalog type = some kind) (steady : ¬ kind.Stumbles config)
    (fits : Kind.issuesOf kind.fields (kind.effective config) = .ok []) :
    issues catalog type (.record config) = .ok [] := by
  have read : Entries.ofOptional (.record config) = .ok (Entries.ofConfig config) :=
    Entries.ofOptional_optional (some config)
  simp only [issues, known, read, Entries.named_ofConfig, Kind.issues_of_steady steady, fits]
  rfl

/-- What passes the gate holds the merged values, is complete, and no issue is left in
it. -/
theorem of_apply_eq_ok (known : kind? catalog type = some kind)
    (passed : apply catalog type (.optional current) (.record updates) = .ok config) :
    ∃ merged, merge kind (Ledger.has updates) (current.getD []) updates = .ok merged ∧
      Config.value config = Config.value merged ∧
      kind.Completes (Ledger.keys (current.getD []) ++ Ledger.keys updates) config ∧
      Kind.issuesOf kind.fields config = .ok [] := by
  rw [apply_record known] at passed
  obtain ⟨merged, updated, rfl⟩ := Checked.map_eq_ok passed
  have covers (key : String) :
      key ∈ Ledger.keys (Ledger.putAll (current.getD []) updates) ↔
        key ∈ Ledger.keys (current.getD []) ++ Ledger.keys updates := by
    rw [Ledger.mem_keys_putAll, List.mem_append]
  obtain ⟨mergedAs, noIssue⟩ := of_update_eq_ok updated
  have completes := completes_merge mergedAs
  have sameValues := value_shown completes covers
  refine ⟨merged, mergedAs, sameValues, completes_shown covers merged, ?_⟩
  rw [← noIssue, issues_merge mergedAs]
  exact Kind.issuesOf_congr sameValues kind.fields

/-- Only a known type lets anything pass. -/
theorem exists_kind_of_apply_eq_ok {given : Value}
    (passed : apply catalog type given (.record updates) = .ok config) :
    ∃ kind, kind? catalog type = some kind := by
  cases known : kind? catalog type with
  | none =>
      rw [apply, accept, known] at passed
      cases passed
  | some kind => exact ⟨kind, rfl⟩

end Gate

end StageGraph
