import StageGraph.Proofs.Gate.Passing

/-!
# Completing is a closure

A configuration is completed with the defaults of its kind and then, field by field, with the
defaults of the branches that its values select.  What is selected is judged while it is
written, and fields may share keys and come in any order.  But a completed configuration has
a value under every declared key, so a second pass finds no open key and writes nothing.
Whatever looks at a configuration completes it first, and thus cannot tell it from the
completed one.

All this presupposes that completing comes to an end.  A condition that expects a member of
a set looks the value up, and it fails where a list stands there, while one that expects an
item of a list is simply not met.  Completing fails exactly where a field stumbles so.
-/

namespace StageGraph

namespace Kind

variable {kind : Kind} {given : Config} {key : String}

/-- What is given stays. -/
theorem get?_effective_of_mem (nodup : (Ledger.keys given).Nodup)
    (member : key ∈ Ledger.keys given) :
    Ledger.get? (kind.effective given) key = Ledger.get? given key := by
  have isGiven : Ledger.has given key = true := Ledger.has_eq_true_iff.mpr member
  rw [effective, get?_fillBranches fun _ _ _ => isGiven, Ledger.get?_putAll nodup,
    Option.or_of_isSome isGiven]

theorem issues_effective (steady : ¬ kind.Stumbles given) :
    kind.issues (kind.effective given) = kind.issues given := by
  rw [issues, complete_effective steady, issues_of_steady steady]

theorem obstacle?_effective (steady : ¬ kind.Stumbles given) (flow : Flow) :
    kind.obstacle? (kind.effective given) flow = kind.obstacle? given flow := by
  rw [obstacle?, complete_effective steady, obstacle?_of_steady steady]

theorem visibleFields_effective (steady : ¬ kind.Stumbles given) :
    kind.visibleFields (kind.effective given) = kind.visibleFields given := by
  rw [visibleFields, complete_effective steady, visibleFields, complete_of_steady steady]

end Kind

namespace Gate

variable {catalog : Catalog} {type : Value} {kind : Kind}

theorem visibleFields_optional (known : kind? catalog type = some kind) (given : Option Config) :
    visibleFields catalog type (.optional given) =
      (kind.visibleFields (given.getD [])).mapError fun _ => .notEntries := by
  simp only [visibleFields, known, Entries.ofOptional_optional, bind, Except.bind]
  rw [Entries.named_ofConfig]

theorem issues_optional (known : kind? catalog type = some kind) (given : Option Config) :
    issues catalog type (.optional given) =
      (kind.issues (given.getD [])).mapError .unjudged := by
  simp only [issues, known, Entries.ofOptional_optional, Entries.named_ofConfig]

end Gate

namespace Kind

/-- A configuration holds what is given and a value under every declared key, is complete by
itself, and serves for what is given: it has the same code, the same findings in every flow
or the same obstacle to them, the same visible fields and the same issues. -/
structure Closes (kind : Kind) (given : Option Config) (completed : Config) : Prop where
  keeps : ∀ key ∈ Ledger.keys (given.getD []),
    Ledger.get? completed key = Ledger.get? (given.getD []) key
  covers : ∀ field ∈ kind.fields, field.key ∈ Ledger.keys completed
  stable : kind.complete completed = .ok completed
  render : kind.render completed = kind.render (given.getD [])
  findings : ∀ flow, kind.findings completed flow = kind.findings (given.getD []) flow
  obstacle : ∀ flow, kind.obstacle? completed flow = kind.obstacle? (given.getD []) flow
  visible : ∀ catalog type, Gate.kind? catalog type = some kind →
    Gate.visibleFields catalog type (.record completed) =
      Gate.visibleFields catalog type (.optional given)
  issues : ∀ catalog type, Gate.kind? catalog type = some kind →
    Gate.issues catalog type (.record completed) = Gate.issues catalog type (.optional given)

/-- A kind that does not stumble closes a configuration by completing it. -/
theorem effective_closes {kind : Kind} {given : Option Config}
    (nodup : (Ledger.keys (given.getD [])).Nodup)
    (steady : ¬ kind.Stumbles (given.getD [])) :
    kind.Closes given (kind.effective (given.getD [])) where
  keeps := fun _ member => get?_effective_of_mem nodup member
  covers := fun _ member => (kind.completes_effective _).mem_of_field member
  stable := complete_effective steady
  render := render_effective steady
  findings := by
    intro flow
    rw [Kind.findings, effective_effective]
    rfl
  obstacle := obstacle?_effective steady
  visible := by
    intro catalog type known
    rw [Gate.visibleFields_optional known, ← visibleFields_effective steady]
    exact Gate.visibleFields_optional known (some _)
  issues := by
    intro catalog type known
    rw [Gate.issues_optional known, ← issues_effective steady]
    exact Gate.issues_optional known (some _)

/-- A configuration is closed by completing it unless the kind stumbles over it, and then
completing fails. -/
theorem complete_closes_iff (kind : Kind) (given : Option Config)
    (nodup : (Ledger.keys (given.getD [])).Nodup) :
    ((∃ completed, kind.complete (given.getD []) = .ok completed ∧
        kind.Closes given completed) ↔ ¬ kind.Stumbles (given.getD [])) ∧
      (kind.Stumbles (given.getD []) → kind.complete (given.getD []) = .error {}) := by
  refine ⟨⟨?_, ?_⟩, complete_of_stumbles⟩
  · rintro ⟨completed, done, _⟩
    exact steady_of_complete done
  · intro steady
    exact ⟨_, complete_of_steady steady, effective_closes nodup steady⟩

/-- A field for the scores of one task. -/
def scoring (task : String) (scores : List String) : Field :=
  { key := "scores", label := "Scores", kind := .tags, initial := .list (scores.map .text),
    condition := when "task" task }

/-- A kind with a key that two branches share, and with all that depends on a key before it. -/
def scored : Kind :=
  { type := "scored", label := "Scored", phase := .model
    fields := [
      { key := "average", label := "Average", kind := .text, initial := "macro"
        condition := some { key := "scores", expected := .plain (.list [.list [.text "f1"]]) } },
      scoring "regress" ["mae", "rmse"], scoring "classify" ["f1"],
      { key := "task", label := "Task", kind := .text, initial := "regress" }]
    template := fun _ => .ok "" }

def classifying : Config :=
  [("note", "x"), ("task", "classify")]

/-- The average is judged before the scores that it depends on are written. -/
theorem classifying_closed :
    (Ledger.keys ((some classifying).getD [])).Nodup ∧ ¬ scored.Stumbles classifying ∧
    scored.Closes (some classifying)
      [("label", "Scored"), ("task", "classify"), ("average", "macro"),
        ("scores", .list [.text "f1"]), ("note", "x")] := by
  have nodup : (Ledger.keys ((some classifying).getD [])).Nodup := by decide
  have steady : ¬ scored.Stumbles classifying :=
    steady_of_isAlwaysTestable (by decide) classifying
  obtain ⟨_, done, closes⟩ := (complete_closes_iff scored (some classifying) nodup).1.mpr steady
  obtain rfl := Except.ok.inj done
  exact ⟨nodup, steady, closes⟩

/-- A kind with a limit that is set in two modes. -/
def limited (modes : Expected) : Kind :=
  { type := "limited", label := "Limited", phase := .model
    fields := [
      { key := "mode", label := "Mode", kind := .text },
      { key := "limit", label := "Limit", kind := .text
        condition := some { key := "mode", expected := modes } }]
    template := fun _ => .ok "" }

/-- A list of modes is no mode: it is not among the items of a list, but it cannot be looked
up in a set. -/
theorem limited_not_completed :
    (limited (.plain (.list ["a", "b"]))).complete [("mode", .list ["a"])] =
      .ok [("label", "Limited"), ("mode", .list ["a"]), ("limit", .null)] ∧
    ¬ ∃ completed, (limited (.set ["a", "b"])).complete [("mode", .list ["a"])] =
      .ok completed := by
  refine ⟨rfl, ?_⟩
  rintro ⟨completed, done⟩
  cases done

end Kind

end StageGraph
