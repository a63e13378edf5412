import StageGraph.Gate
import StageGraph.Proofs.Reading

/-!
# Conditions that can be tested

A condition that looks up a list or a record cannot be tested, and whoever asks for it
fails.  Defaults are taken and configurations are completed field by field, and a field is
only asked while its key is open.  So one asks in vain exactly where a field stumbles: it
comes up with an open key under what is known by then, and its condition cannot be tested.
Where none does, the outcome is the one that is told by visibility alone.  A condition on a
text that does not expect a set is never stumbled over.
-/

namespace StageGraph

/-! ## Steps with a guard -/

namespace Checked

variable {ε α σ : Type} {ready : σ → α → Bool} {next : σ → α → σ} {fault : ε}
  {step : σ → α → Except ε σ} {items : List α} {start : σ}

/-- Steps that are all ready are all taken. -/
theorem foldlM_of_ready
    (guarded : ∀ item ∈ items, ∀ state, step state item =
      if ready state item then .ok (next state item) else .error fault)
    (all : ∀ before item after, items = before ++ item :: after →
      ready (before.foldl next start) item = true) :
    items.foldlM step start = .ok (items.foldl next start) := by
  induction items generalizing start with
  | nil => rfl
  | cons item rest induction =>
      have isReady : ready start item = true := all [] item rest rfl
      rw [List.foldlM_cons, guarded item List.mem_cons_self, if_pos isReady]
      refine induction (fun other member => guarded other (List.mem_cons_of_mem _ member)) ?_
      intro before other after split
      exact all (item :: before) other after (congrArg (item :: ·) split)

/-- A step that is not ready stops all of them. -/
theorem foldlM_of_not_ready {before : List α} {item : α} {after : List α}
    (guarded : ∀ other ∈ before ++ item :: after, ∀ state, step state other =
      if ready state other then .ok (next state other) else .error fault)
    (stuck : ready (before.foldl next start) item = false) :
    (before ++ item :: after).foldlM step start = .error fault := by
  induction before generalizing start with
  | nil =>
      have notReady : ready start item = false := stuck
      rw [List.nil_append, List.foldlM_cons, guarded item List.mem_cons_self, notReady]
      rfl
  | cons first before induction =>
      rw [List.cons_append, List.foldlM_cons, guarded first List.mem_cons_self]
      split
      · exact induction (fun other member => guarded other (List.mem_cons_of_mem _ member)) stuck
      · rfl

end Checked

/-! ## Fields that can be judged -/

namespace Field

variable {field : Field} {config : Config}

theorem isTestable_of_isVisible (visible : field.isVisible config = true) :
    field.isTestable config = true := by
  unfold isVisible at visible
  unfold isTestable
  cases given : field.condition with
  | none => rfl
  | some condition =>
      rw [given] at visible
      exact (Bool.and_eq_true_iff.mp visible).1

theorem judge_of_isVisible (visible : field.isVisible config = true) :
    field.judge config = field.check (Config.value config field.key) := by
  simp only [judge, shows, isTestable_of_isVisible visible, visible, if_true]

theorem judge_of_hidden (testable : field.isTestable config = true)
    (hidden : field.isVisible config = false) : field.judge config = .ok none := by
  simp only [judge, shows, testable, hidden, if_true]

/-- Only a field that can be told to be visible or hidden is judged. -/
theorem isTestable_of_judge {issue : Option String} (judged : field.judge config = .ok issue) :
    field.isTestable config = true := by
  by_contra untestable
  rw [judge, shows, if_neg untestable] at judged
  cases judged

/-- Whether a field depends on no other, or on a value under a key and not on a set. -/
def isAlwaysTestable (field : Field) : Bool :=
  field.condition.all fun condition =>
    condition.key.isKey &&
      match condition.expected with
      | .plain _ => true
      | .set _ => false

theorem isTestable_of_isAlwaysTestable (always : field.isAlwaysTestable = true)
    (config : Config) : field.isTestable config = true := by
  obtain ⟨key, label, kind, initial, options, required, minimum, maximum, step, description,
    placeholder, condition⟩ := field
  rcases condition with _ | ⟨key, expected⟩
  · rfl
  · cases expected with
    | plain value => exact always
    | set members => simp [isAlwaysTestable] at always

/-! ## Defaults -/

variable {fields : List Field} {known : Config}

/-- The field comes up in the first round when this much is known. -/
def ComesUp (fields : List Field) (field : Field) (known : Config) : Prop :=
  ∃ before after, fields = before ++ field :: after ∧ known = fillVisible before []

/-- The field comes up while its key is open, and its condition cannot be tested. -/
def Stumbles (fields : List Field) (field : Field) : Prop :=
  ∃ known, ComesUp fields field known ∧ field.key ∉ Ledger.keys known ∧
    field.isTestable known = false

theorem takeVisible_eq (known : Config) (field : Field) :
    takeVisible known field =
      if Ledger.has known field.key || field.isTestable known then
        .ok (fillVisible [field] known)
      else .error {} := by
  rw [takeVisible, fillVisible, List.foldl_cons, List.foldl_nil, shows]
  cases Ledger.has known field.key <;> cases field.isTestable known <;>
    simp [Except.map]

theorem takeDefaults_of_steady (steady : ∀ field, ¬ Stumbles fields field) :
    takeDefaults fields = .ok (defaults fields) := by
  have taken : fields.foldlM takeVisible [] = .ok (fillVisible fields []) := by
    apply Checked.foldlM_of_ready fun field _ known => takeVisible_eq known field
    intro before field after split
    by_contra stuck
    obtain ⟨isOpen, untestable⟩ := Bool.or_eq_false_iff.mp (Bool.eq_false_iff.mpr stuck)
    exact steady field
      ⟨_, ⟨before, after, split, rfl⟩, Ledger.has_eq_false_iff.mp isOpen, untestable⟩
  rw [takeDefaults, taken]
  rfl

theorem takeDefaults_of_stumbles (stumbles : Stumbles fields field) :
    takeDefaults fields = .error {} := by
  obtain ⟨_, ⟨before, after, rfl, rfl⟩, isOpen, untestable⟩ := stumbles
  have stuck : (Ledger.has (fillVisible before []) field.key ||
      field.isTestable (fillVisible before [])) = false :=
    Bool.or_eq_false_iff.mpr ⟨Ledger.has_eq_false_iff.mpr isOpen, untestable⟩
  have stopped := Checked.foldlM_of_not_ready
    (fun other (_ : other ∈ before ++ field :: after) known => takeVisible_eq known other) stuck
  rw [takeDefaults, stopped]
  rfl

end Field

/-! ## Completed configurations -/

namespace Kind

variable {kind : Kind} {given config : Config}

/-- A field stumbles while a given configuration is completed: over the defaults, or over the
values that its open branch depends on. -/
inductive Stumbles (kind : Kind) (given : Config) : Prop where
  | overDefaults {field : Field} (stumbles : Field.Stumbles kind.fields field)
  | overBranch {before after : List Field} {field : Field}
      (split : kind.fields = before ++ field :: after)
      (isOpen : field.key ∉ Ledger.keys given)
      (untestable : field.isTestable
        (fillBranches before given (Ledger.putAll kind.defaults given)) = false)

theorem takeBranch_eq (given merged : Config) (field : Field) :
    takeBranch given merged field =
      if Ledger.has given field.key || field.isTestable merged then
        .ok (fillBranches [field] given merged)
      else .error {} := by
  rw [takeBranch, fillBranches, List.foldl_cons, List.foldl_nil, Field.shows]
  cases Ledger.has given field.key <;> cases field.isTestable merged <;> simp [Except.map]

theorem complete_of_steady (steady : ¬ kind.Stumbles given) :
    kind.complete given = .ok (kind.effective given) := by
  have defaults := Field.takeDefaults_of_steady fun field stumbles =>
    steady (.overDefaults stumbles)
  rw [complete, defaults]
  apply Checked.foldlM_of_ready fun field _ merged => takeBranch_eq given merged field
  intro before field after split
  by_contra stuck
  obtain ⟨isOpen, untestable⟩ := Bool.or_eq_false_iff.mp (Bool.eq_false_iff.mpr stuck)
  exact steady (.overBranch split (Ledger.has_eq_false_iff.mp isOpen) untestable)

theorem complete_of_stumbles (stumbles : kind.Stumbles given) :
    kind.complete given = .error {} := by
  by_cases early : ∃ field, Field.Stumbles kind.fields field
  · obtain ⟨field, stumbles⟩ := early
    rw [complete, Field.takeDefaults_of_stumbles stumbles]
    rfl
  · have defaults := Field.takeDefaults_of_steady (not_exists.mp early)
    rw [complete, defaults]
    cases stumbles with
    | overDefaults stumbles => exact (early ⟨_, stumbles⟩).elim
    | @overBranch _ after _ split isOpen untestable =>
        have stuck := Bool.or_eq_false_iff.mpr ⟨Ledger.has_eq_false_iff.mpr isOpen, untestable⟩
        have stopped := Checked.foldlM_of_not_ready
          (fun field (_ : field ∈ _ ++ _ :: after) merged => takeBranch_eq given merged field)
          stuck
        rw [← split] at stopped
        exact stopped

/-- What comes of completing is told by visibility alone. -/
theorem eq_effective_of_complete (done : kind.complete given = .ok config) :
    config = kind.effective given := by
  by_cases stumbles : kind.Stumbles given
  · rw [complete_of_stumbles stumbles] at done
    cases done
  · exact Except.ok.inj (done.symm.trans (complete_of_steady stumbles))

theorem steady_of_complete (done : kind.complete given = .ok config) :
    ¬ kind.Stumbles given := by
  intro stumbles
  rw [complete_of_stumbles stumbles] at done
  cases done

theorem render_of_steady (steady : ¬ kind.Stumbles given) :
    kind.render given = kind.template (kind.effective given) := by
  rw [render, complete_of_steady steady]

theorem obstacle?_of_steady (steady : ¬ kind.Stumbles given) (flow : Flow) :
    kind.obstacle? given flow =
      kind.rules.findSome? (ruleObstacle? (kind.effective given) flow) := by
  rw [obstacle?, complete_of_steady steady]

theorem issues_of_steady (steady : ¬ kind.Stumbles given) :
    kind.issues given = issuesOf kind.fields (kind.effective given) := by
  rw [issues, complete_of_steady steady]

theorem steady_of_isAlwaysTestable
    (always : ∀ field ∈ kind.fields, field.isAlwaysTestable = true) (given : Config) :
    ¬ kind.Stumbles given := by
  have testable {field : Field} (member : field ∈ kind.fields) (config : Config) :
      field.isTestable config ≠ false := by
    rw [Field.isTestable_of_isAlwaysTestable (always field member)]
    decide
  rintro (⟨_, ⟨before, after, split, _⟩, _, untestable⟩ | ⟨split, _, untestable⟩)
  · exact testable (split ▸ List.mem_append_right _ List.mem_cons_self) _ untestable
  · exact testable (split ▸ List.mem_append_right _ List.mem_cons_self) _ untestable

end Kind

/-- The tables of fields are computed through: no condition expects a set. -/
theorem Catalog.isAlwaysTestable_builtin : ∀ kind ∈ builtinKinds, ∀ field ∈ kind.fields,
    field.isAlwaysTestable = true := by
  decide +kernel

theorem Catalog.steady_builtin {kind : Kind} (builtin : kind ∈ builtinKinds)
    (given : Config) : ¬ kind.Stumbles given :=
  Kind.steady_of_isAlwaysTestable (isAlwaysTestable_builtin kind builtin) given

/-- No stage of the flow has a configuration that its kind stumbles over. -/
def Flow.IsSteady (catalog : Catalog) (flow : Flow) : Prop :=
  ∀ stage ∈ flow.stages, ∀ kind, catalog.lookup stage.type = some kind →
    ¬ kind.Stumbles stage.configuration

theorem Flow.isSteady_builtin (flow : Flow) : flow.IsSteady Catalog.builtin := by
  intro stage _ kind found
  exact Catalog.steady_builtin (Catalog.of_lookup_builtin found).1 stage.configuration

theorem Kind.render_builtin {kind : Kind} (builtin : kind ∈ Catalog.builtinKinds)
    (given : Config) : kind.render given = kind.template (kind.effective given) :=
  render_of_steady (Catalog.steady_builtin builtin given)

theorem Kind.render_ingest (given : Config) :
    ingest.render given = Ingest.template (ingest.effective given) :=
  render_builtin List.mem_cons_self given

end StageGraph
