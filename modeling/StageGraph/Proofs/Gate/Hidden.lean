import StageGraph.Proofs.Kind.Visible

/-!
# Hidden settings

A key whose fields are all hidden decides about no field, so setting it changes what a
completed configuration holds under that key and nothing else.  What is visible stays the
same, and so does the code, except for the class weights of a training.
-/

namespace StageGraph

/-! ## Configurations that differ in one key -/

/-- Two configurations have the same values, except perhaps under a key. -/
def Config.AgreesOff (key : String) (left right : Config) : Prop :=
  ∀ name, name ≠ key → Config.value left name = Config.value right name

namespace Config.AgreesOff

variable {key : String} {left right : Config}

theorem put_put (agrees : AgreesOff key left right) (name : String) (value : Value) :
    AgreesOff key (Ledger.put left name value) (Ledger.put right name value) := by
  intro other different
  rw [Config.value_put, Config.value_put, agrees other different]

theorem put_right (agrees : AgreesOff key left right) (value : Value) :
    AgreesOff key left (Ledger.put right key value) := by
  intro other different
  rw [Config.value_put, if_neg (Ne.symm different), agrees other different]

theorem isVisible (agrees : AgreesOff key left right) {field : Field}
    (undriven : field.driver? ≠ some key) : field.isVisible left = field.isVisible right := by
  apply Field.isVisible_congr
  intro driver drives
  apply agrees
  rintro rfl
  exact undriven drives

end Config.AgreesOff

namespace Kind

/-- A key has fields, and all of them are hidden. -/
structure Hides (kind : Kind) (config : Config) (key : String) : Prop where
  declared : ∃ field ∈ kind.fields, field.key = key
  hidden : ∀ field ∈ kind.fields, field.key = key → field.isVisible config = false

theorem Hides.seenAlike {kind : Kind} {left right : Config} {key : String}
    (hides : kind.Hides right key) (agrees : Config.AgreesOff key left right) :
    kind.SeenAlike left right := by
  intro field member visible
  apply agrees
  intro same
  rw [hides.hidden field member same] at visible
  cases visible

section

variable {key : String} {given : Config} {value : Value}

theorem agreesOff_putAll (nodup : (Ledger.keys given).Nodup) (initial : Config) :
    Config.AgreesOff key (Ledger.putAll initial (Ledger.put given key value))
      (Ledger.putAll initial given) := by
  intro name different
  unfold Config.value
  rw [Ledger.get?_putAll (Ledger.nodup_keys_put nodup key value), Ledger.get?_putAll nodup,
    Ledger.get?_put, if_neg (Ne.symm different)]

theorem agreesOff_fillBranches {fields : List Field}
    (undriven : ∀ field ∈ fields, field.driver? ≠ some key) {left right : Config}
    (agrees : Config.AgreesOff key left right) :
    Config.AgreesOff key (fillBranches fields (Ledger.put given key value) left)
      (fillBranches fields given right) := by
  induction fields generalizing left right with
  | nil => exact agrees
  | cons field rest induction =>
      apply induction fun other member => undriven other (List.mem_cons_of_mem _ member)
      have sameVisible := agrees.isVisible (undriven field List.mem_cons_self)
      by_cases same : field.key = key
      · have written : Ledger.has (Ledger.put given key value) field.key = true := by
          simp [Ledger.has_put, same]
        simp only [written, Bool.not_true, Bool.false_and, Bool.false_eq_true, if_false]
        split
        · exact same ▸ agrees.put_right field.initial
        · exact agrees
      · have sameHas : Ledger.has (Ledger.put given key value) field.key =
            Ledger.has given field.key := by
          simp [Ledger.has_put, Ne.symm same]
        simp only [sameHas, sameVisible]
        split
        · exact agrees.put_put field.key field.initial
        · exact agrees

/-- A value that decides about no field is seen under its own key only. -/
theorem agreesOff_effective {kind : Kind}
    (undriven : ∀ field ∈ kind.fields, field.driver? ≠ some key)
    (nodup : (Ledger.keys given).Nodup) (value : Value) :
    Config.AgreesOff key (kind.effective (Ledger.put given key value)) (kind.effective given) :=
  agreesOff_fillBranches undriven (agreesOff_putAll nodup kind.defaults)

theorem value_effective_put (kind : Kind) (nodup : (Ledger.keys given).Nodup)
    (key : String) (value : Value) :
    Config.value (kind.effective (Ledger.put given key value)) key = value := by
  have written : Ledger.get? (Ledger.put given key value) key = some value := by
    rw [Ledger.get?_put, if_pos rfl]
  have known : Ledger.has (Ledger.put given key value) key = true := by
    simp [Ledger.has_put]
  rw [Config.value, effective, get?_fillBranches fun _ _ _ => known,
    Ledger.get?_putAll (Ledger.nodup_keys_put nodup key value), written]
  rfl

end

/-- What decides about a field is itself always visible. -/
theorem Hides.undriven {kind : Kind} {config : Config} {key : String}
    (hides : kind.Hides config key) (builtin : kind ∈ Catalog.builtinKinds) :
    ∀ field ∈ kind.fields, field.driver? ≠ some key := by
  have drivers : ∀ kind ∈ Catalog.builtinKinds, ∀ field ∈ kind.fields,
      ∀ driver ∈ field.driver?, ∃ other ∈ kind.fields,
        other.key = driver ∧ other.condition.isNone = true := by
    decide +kernel
  intro field member drives
  obtain ⟨other, otherMember, same, always⟩ := drivers kind builtin field member key drives
  have hidden := hides.hidden other otherMember same
  rw [Field.isVisible, Option.isNone_iff_eq_none.mp always] at hidden
  cases hidden

end Kind

namespace Gate

variable {type : Value} {kind : Kind} {config : Config} {key : String}

theorem accepts_of_issues (known : kind? Catalog.builtin type = some kind)
    (accepted : issues Catalog.builtin type (.record config) = .ok []) :
    kind.Accepts (kind.effective config) := by
  have read : Entries.ofOptional (.record config) = .ok (Entries.ofConfig config) :=
    Entries.ofOptional_optional (some config)
  simp only [issues, known, read, Entries.named_ofConfig] at accepted
  cases found : kind.issues config with
  | error fault => rw [found] at accepted; cases accepted
  | ok messages =>
      rw [found] at accepted
      obtain rfl := Except.ok.inj accepted
      have steady := Catalog.steady_builtin (Catalog.of_lookup_builtin known).1 config
      rw [Kind.issues_of_steady steady] at found
      exact Kind.accepts_of_issuesOf_eq_nil found

/-- Setting a hidden key of an accepted configuration leaves the code as it is, except for
the class weights of a training, which are noted in it when they are balanced. -/
theorem render_put_eq_iff (known : kind? Catalog.builtin type = some kind)
    (nodup : (Ledger.keys config).Nodup)
    (accepted : issues Catalog.builtin type (.record config) = .ok [])
    (hides : kind.Hides (kind.effective config) key) (value : Value) :
    kind.render (Ledger.put config key value) = kind.render config ↔
      (kind.typeName = TypeName.training ∧ key = "classWeights" →
        value.agrees "balanced" =
          Config.holds (kind.effective config) "classWeights" "balanced") := by
  have builtin := (Catalog.of_lookup_builtin known).1
  have agrees := Kind.agreesOff_effective (hides.undriven builtin) nodup value
  have accepts := accepts_of_issues known accepted
  rw [Kind.render_builtin builtin, Kind.render_builtin builtin]
  refine (Kind.template_eq_iff builtin (hides.seenAlike agrees) accepts).trans ?_
  by_cases isWeights : key = "classWeights"
  · subst isWeights
    simp only [Config.holds, Kind.value_effective_put kind nodup, and_true]
  · have same : Config.holds (kind.effective (Ledger.put config key value)) "classWeights"
        "balanced" = Config.holds (kind.effective config) "classWeights" "balanced" :=
      congrArg (·.agrees "balanced") (agrees _ (Ne.symm isWeights))
    exact iff_of_true (fun _ => same) fun weights => absurd weights.2 isWeights

/-- A training that hides its class weights and its patience. -/
def unsupervised : Config :=
  [("learningType", "Unsupervised")]

theorem unsupervised_nodup : (Ledger.keys unsupervised).Nodup :=
  List.nodup_cons.mpr ⟨List.not_mem_nil, List.nodup_nil⟩

theorem unsupervised_accepted :
    issues Catalog.builtin "trainingNode" (.record unsupervised) = .ok [] := by
  have known : kind? Catalog.builtin "trainingNode" = some Kind.training := rfl
  exact issues_eq_nil known
    (Catalog.steady_builtin (Catalog.of_lookup_builtin known).1 unsupervised) rfl

theorem unsupervised_hides {key : String}
    (listed : key ∈ ["classWeights", "earlyStoppingPatience"]) :
    Kind.training.Hides (Kind.training.effective unsupervised) key := by
  simp only [List.mem_cons, List.not_mem_nil, or_false] at listed
  rcases listed with rfl | rfl
  · exact ⟨by decide, by decide⟩
  · exact ⟨by decide, by decide⟩

theorem render_put_patience :
    kind? Catalog.builtin "trainingNode" = some Kind.training ∧
    (Ledger.keys unsupervised).Nodup ∧
    issues Catalog.builtin "trainingNode" (.record unsupervised) = .ok [] ∧
    Kind.training.Hides (Kind.training.effective unsupervised) "earlyStoppingPatience" ∧
    (Kind.training.render (Ledger.put unsupervised "earlyStoppingPatience" (.list [])) =
        Kind.training.render unsupervised ↔
      (Kind.training.typeName = TypeName.training ∧ "earlyStoppingPatience" = "classWeights" →
        Value.agrees (.list []) "balanced" =
          Config.holds (Kind.training.effective unsupervised) "classWeights" "balanced")) := by
  have hides := unsupervised_hides (List.mem_cons_of_mem _ List.mem_cons_self)
  exact ⟨rfl, unsupervised_nodup, unsupervised_accepted, hides,
    render_put_eq_iff rfl unsupervised_nodup unsupervised_accepted hides (.list [])⟩

/-- Balanced weights are noted in a training that hides the weights. -/
theorem render_put_balanced_ne :
    issues Catalog.builtin "trainingNode" (.record unsupervised) = .ok [] ∧
    Kind.training.Hides (Kind.training.effective unsupervised) "classWeights" ∧
    Kind.training.render (Ledger.put unsupervised "classWeights" "balanced") ≠
      Kind.training.render unsupervised := by
  have hides := unsupervised_hides List.mem_cons_self
  refine ⟨unsupervised_accepted, hides, fun same => ?_⟩
  have builtin : Kind.training ∈ Catalog.builtinKinds := List.mem_of_getElem? (i := 6) rfl
  have agrees := Kind.agreesOff_effective (hides.undriven builtin)
    unsupervised_nodup "balanced"
  have accepts := accepts_of_issues rfl unsupervised_accepted
  rw [Kind.render_builtin builtin, Kind.render_builtin builtin] at same
  have balanced := (Kind.Training.template_eq_iff (hides.seenAlike agrees) accepts).mp same
  cases balanced

end Gate

end StageGraph
