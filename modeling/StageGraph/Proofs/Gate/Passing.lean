import StageGraph.Proofs.Gate.Completion

/-!
# What has passed passes again

A configuration is told by its keys, in their order, and by their values.  Completing and
setting back write only keys that are there, so every configuration that is merged has the
keys of the defaults, then the given ones, then those of the update.  With these keys in
place there is nothing left to complete, and with everything that is visible judged to fit
there is nothing left to set back.  The gate returns what it let pass once.
-/

namespace StageGraph

/-! ## Keys and values -/

namespace Config

variable {config : Config} {key : String}

theorem get?_eq_value (member : key ∈ Ledger.keys config) :
    Ledger.get? config key = some (value config key) := by
  have found := Ledger.get?_eq_none_iff.not.mpr (not_not.mpr member)
  obtain ⟨held, holds⟩ := Option.ne_none_iff_exists'.mp found
  rw [value, holds]
  rfl

theorem value_eq_of_get? {held : Value} (found : Ledger.get? config key = some held) :
    value config key = held := by
  rw [value, found]
  rfl

/-- A configuration is told by its keys and their values. -/
theorem eq_of_keys_of_value {left right : Config} (nodup : (Ledger.keys left).Nodup)
    (sameKeys : Ledger.keys left = Ledger.keys right) (sameValues : left.value = right.value) :
    left = right := by
  have leftTable := Ledger.eq_tabulate nodup fun _ => get?_eq_value
  have rightTable := Ledger.eq_tabulate (sameKeys ▸ nodup) fun _ => get?_eq_value
  rw [leftTable, rightTable, sameKeys, sameValues]

end Config

/-! ## The keys of what is completed, merged and shown -/

namespace Kind

variable {kind : Kind} {given config : Config}

theorem keys_effective (kind : Kind) (given : Config) :
    Ledger.keys (kind.effective given) =
      distinct (Ledger.keys kind.defaults ++ Ledger.keys given) := by
  rw [effective, keys_fillBranches]
  · exact Ledger.keys_putAll_of_nodup kind.nodup_keys_defaults given
  · intro field member
    exact Ledger.mem_keys_putAll.mpr (.inl (key_mem_defaults member))

/-- A configuration with the keys of the defaults in front is completed by itself. -/
theorem effective_eq_self {keys : List String} (completes : kind.Completes keys config)
    (ordered : Ledger.keys config = distinct (Ledger.keys kind.defaults ++ keys)) :
    kind.effective config = config := by
  apply Config.eq_of_keys_of_value (kind.completes_effective config).nodup
  · rw [keys_effective, ordered, distinct_append_distinct_append]
  · exact completes.value_effective

/-- A completed configuration has no open key. -/
@[simp] theorem effective_effective (kind : Kind) (given : Config) :
    kind.effective (kind.effective given) = kind.effective given :=
  effective_eq_self (kind.completes_effective given) (kind.keys_effective given)

theorem steady_effective (steady : ¬ kind.Stumbles given) :
    ¬ kind.Stumbles (kind.effective given) :=
  (kind.completes_effective given).steady fun _ stumbles => steady (.overDefaults stumbles)

/-- A completed configuration is completed by itself. -/
theorem complete_effective (steady : ¬ kind.Stumbles given) :
    kind.complete (kind.effective given) = .ok (kind.effective given) := by
  rw [complete_of_steady (steady_effective steady), effective_effective]

/-- A completed configuration is rendered like the one it was completed from. -/
theorem render_effective (steady : ¬ kind.Stumbles given) :
    kind.render (kind.effective given) = kind.render given := by
  rw [render, complete_effective steady, render_of_steady steady]

/-- Where no field has a key, the given value stays. -/
theorem get?_effective {entry : String × Value} (nodup : (Ledger.keys given).Nodup)
    (member : entry ∈ given) (undeclared : ∀ field ∈ kind.fields, field.key ≠ entry.1) :
    Ledger.get? (kind.effective given) entry.1 = some entry.2 := by
  have spared : ∀ field ∈ kind.fields, field.key = entry.1 → Ledger.has given entry.1 = true :=
    fun field inKind same => absurd same (undeclared field inKind)
  rw [effective, get?_fillBranches spared, Ledger.get?_putAll nodup,
    Ledger.get?_eq_some_of_mem nodup member]
  rfl

end Kind

namespace Gate

variable {kind : Kind} {touched : String → Bool} {given updates config merged : Config}

theorem keys_merge {current : Config}
    (done : merge kind touched current updates = .ok merged) :
    Ledger.keys merged =
      distinct (Ledger.keys kind.defaults ++ (Ledger.keys current ++ Ledger.keys updates)) := by
  have completes := kind.completes_effective current
  have known : ∀ field ∈ kind.fields,
      field.key ∈ Ledger.keys (Ledger.putAll (kind.effective current) updates) :=
    fun field member => Ledger.mem_keys_putAll.mpr (.inl (completes.mem_of_field member))
  rw [keys_resetStale known (of_merge_eq_ok done).2, Ledger.keys_putAll_of_nodup completes.nodup,
    Kind.keys_effective, ← List.append_assoc]
  exact distinct_append_congr (distinct_eq_self (nodup_distinct _)) rfl

theorem keys_shown (kind : Kind) (given config : Config) :
    Ledger.keys (shown kind (Entries.ofConfig given) config) =
      distinct (Ledger.keys kind.defaults ++ Ledger.keys given) := by
  have filtered : (Ledger.keys given).filter (! (Ledger.keys kind.defaults).contains ·) =
      (Ledger.keys given).filter (· ∉ Ledger.keys kind.defaults) := by
    simp
  rw [shown, Entries.shown_ofConfig, Ledger.keys_putAll, Ledger.keys_tabulate, distinct_append,
    distinct_append, filtered, distinct_filter, List.filter_filter]
  simp

/-- What is merged is shown as it is. -/
theorem shown_eq_self {current : Config} (nodup : (Ledger.keys current).Nodup)
    (done : merge kind touched current updates = .ok merged) :
    shown kind (Entries.ofConfig (Ledger.putAll current updates)) merged = merged := by
  have covers (key : String) : key ∈ Ledger.keys (Ledger.putAll current updates) ↔
      key ∈ Ledger.keys current ++ Ledger.keys updates := by
    rw [Ledger.mem_keys_putAll, List.mem_append]
  apply Config.eq_of_keys_of_value (completes_shown covers merged).nodup
  · rw [keys_shown, keys_merge done, Ledger.keys_putAll_of_nodup nodup]
    exact distinct_append_congr rfl (distinct_eq_self (nodup_distinct _))
  · exact value_shown (completes_merge done) covers

variable {catalog : Catalog} {type : Value} {current : Option Config}

/-- The gate returns what its kind has merged. -/
theorem apply_eq_update (known : kind? catalog type = some kind)
    (nodup : (Ledger.keys (current.getD [])).Nodup) (updates : Config) :
    apply catalog type (.optional current) (.record updates) =
      update kind (current.getD []) updates := by
  rw [apply_record known]
  cases updated : update kind (current.getD []) updates with
  | error fault => rfl
  | ok merged => exact congrArg Except.ok (shown_eq_self nodup (of_update_eq_ok updated).1)

/-! ## What the gate leaves as it is -/

/-- Where nothing is found wrong, nothing is set back. -/
theorem resetStale_eq_self {fields : List Field}
    (fits : ∀ field ∈ fields, field.judge config = .ok none) :
    resetStale fields touched config = .ok config := by
  induction fields with
  | nil => rfl
  | cons field rest induction =>
      have kept : resetField touched config field = .ok config := by
        rw [resetField, fits field List.mem_cons_self]
        exact ite_self _
      rw [resetStale, List.foldlM_cons, kept]
      exact induction fun other member => fits other (List.mem_cons_of_mem _ member)

/-- What passed holds the update. -/
theorem get?_of_update {entry : String × Value} (nodup : (Ledger.keys updates).Nodup)
    (passed : update kind given updates = .ok config) (member : entry ∈ updates) :
    Ledger.get? config entry.1 = some entry.2 := by
  have found := Ledger.get?_eq_some_of_mem nodup member
  have touched : Ledger.has updates entry.1 = true := by simp [Ledger.has, found]
  have reset := (of_merge_eq_ok (of_update_eq_ok passed).1).2
  rw [get?_resetStale (fun _ _ _ => touched) reset,
    Ledger.get?_putAll nodup, found]
  rfl

/-- What passed holds the given values that neither the fields nor the update are about. -/
theorem get?_of_given {entry : String × Value} (nodup : (Ledger.keys given).Nodup)
    (passed : update kind given updates = .ok config) (member : entry ∈ given)
    (undeclared : ∀ field ∈ kind.fields, field.key ≠ entry.1)
    (untouched : entry.1 ∉ Ledger.keys updates) :
    Ledger.get? config entry.1 = some entry.2 := by
  have spared : ∀ field ∈ kind.fields, field.key = entry.1 →
      Ledger.has updates entry.1 = true :=
    fun field inKind same => absurd same (undeclared field inKind)
  have reset := (of_merge_eq_ok (of_update_eq_ok passed).1).2
  rw [get?_resetStale spared reset,
    Ledger.get?_putAll_of_not_mem untouched, Kind.get?_effective nodup member undeclared]

/-- What has passed passes again, under every update that it holds already. -/
theorem update_eq_self {again : Config} (passed : update kind given updates = .ok config)
    (held : ∀ entry ∈ again, Ledger.get? config entry.1 = some entry.2) :
    update kind config again = .ok config := by
  obtain ⟨mergedAs, noIssue⟩ := of_update_eq_ok passed
  have completes := completes_merge mergedAs
  have fits : ∀ field ∈ kind.fields, field.judge config = .ok none := by
    rw [issues_merge mergedAs] at noIssue
    exact fun field => Kind.judge_of_issuesOf_eq_nil noIssue
  have mergedAgain : merge kind (Ledger.has again) config again = .ok config := by
    rw [merge_of_steady (steady_merge mergedAs),
      Kind.effective_eq_self completes (keys_merge mergedAs), Ledger.putAll_eq_self held]
    exact resetStale_eq_self fits
  rw [update_of_issues mergedAgain noIssue, if_pos rfl]

/-! ## The second pass -/

/-- What an accepted update leaves behind: the values of the update; of the current
configuration whatever no field is declared for, unless the update replaces it; a value for
every field; no issue; and a configuration that passes unchanged, with the same update and
with none. -/
structure Passed (catalog : Catalog) (type : Value) (kind : Kind)
    (current updates config : Config) : Prop where
  keeps_updates : ∀ entry ∈ updates, Ledger.get? config entry.1 = some entry.2
  keeps_undeclared : ∀ entry ∈ current, (∀ field ∈ kind.fields, field.key ≠ entry.1) →
    entry.1 ∉ Ledger.keys updates → Ledger.get? config entry.1 = some entry.2
  holds_fields : ∀ field ∈ kind.fields, field.key ∈ Ledger.keys config
  no_issue : issues catalog type (.record config) = .ok []
  unchanged : apply catalog type (.record config) (.record []) = .ok config
  unchanged_again : apply catalog type (.record config) (.record updates) = .ok config

/-- An accepted update keeps what the caller gave, and passing once more changes nothing,
whatever the fields of the kind are. -/
theorem apply_passed (currentNodup : (Ledger.keys (current.getD [])).Nodup)
    (updatesNodup : (Ledger.keys updates).Nodup)
    (passed : apply catalog type (.optional current) (.record updates) = .ok config) :
    ∃ kind, kind? catalog type = some kind ∧
      Passed catalog type kind (current.getD []) updates config := by
  obtain ⟨kind, known⟩ := exists_kind_of_apply_eq_ok passed
  rw [apply_eq_update known currentNodup] at passed
  obtain ⟨mergedAs, noIssue⟩ := of_update_eq_ok passed
  have completes := completes_merge mergedAs
  have keepsUpdates : ∀ entry ∈ updates, Ledger.get? config entry.1 = some entry.2 :=
    fun _ => get?_of_update updatesNodup passed
  have unchanged {again : Config}
      (held : ∀ entry ∈ again, Ledger.get? config entry.1 = some entry.2) :
      apply catalog type (.optional (some config)) (.record again) = .ok config := by
    rw [apply_eq_update known]
    · exact update_eq_self passed held
    · exact completes.nodup
  refine ⟨kind, known, keepsUpdates, fun _ => get?_of_given currentNodup passed,
    fun _ => completes.mem_of_field, ?_, unchanged (by simp), unchanged keepsUpdates⟩
  have read : Entries.ofOptional (.record config) = .ok (Entries.ofConfig config) :=
    Entries.ofOptional_optional (some config)
  simp only [issues, known, read, Entries.named_ofConfig, noIssue, Except.mapError]

/-- An evaluation of clusters with a note. -/
def notedEvaluation : Config :=
  [("note", "first run"), ("evaluationType", "Clustering"),
    ("metrics", .list ["Silhouette Score"])]

/-- The same evaluation, made one of a regression. -/
def turnedEvaluation : Config :=
  [("label", "Evaluation"), ("evaluationType", "Regression"),
    ("metrics", .list ["MAE", "RMSE", "R2"]), ("crossValidation", .bool false),
    ("generateConfusionMatrix", .bool true), ("generateROCCurve", .bool false),
    ("cvFolds", .int 5), ("generateResidualPlot", .bool false), ("note", "first run")]

theorem turnedEvaluation_passed :
    apply Catalog.builtin "evaluationNode" (.optional (some notedEvaluation))
        (.record [("evaluationType", "Regression")]) = .ok turnedEvaluation ∧
    ∃ kind, kind? Catalog.builtin "evaluationNode" = some kind ∧
      Passed Catalog.builtin "evaluationNode" kind notedEvaluation
        [("evaluationType", "Regression")] turnedEvaluation := by
  have currentNodup : (Ledger.keys ((some notedEvaluation).getD [])).Nodup := by decide
  have updatesNodup : (Ledger.keys [("evaluationType", Value.text "Regression")]).Nodup := by
    decide
  have known : kind? Catalog.builtin "evaluationNode" = some Kind.evaluation := rfl
  have steady := Catalog.steady_builtin (Catalog.of_lookup_builtin known).1 notedEvaluation
  have reset : resetStale Kind.evaluation.fields
      (Ledger.has [("evaluationType", Value.text "Regression")])
      (Ledger.putAll (Kind.evaluation.effective notedEvaluation)
        [("evaluationType", "Regression")]) = .ok turnedEvaluation := rfl
  have passed : apply Catalog.builtin "evaluationNode" (.optional (some notedEvaluation))
      (.record [("evaluationType", "Regression")]) = .ok turnedEvaluation :=
    (apply_eq_update known currentNodup _).trans (update_of_steps steady reset rfl)
  exact ⟨passed, apply_passed currentNodup updatesNodup passed⟩

end Gate

end StageGraph
