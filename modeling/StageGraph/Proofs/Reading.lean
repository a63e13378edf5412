import StageGraph.Proofs.Catalog

/-!
# What reading guarantees

A reading that ends in a value has read all its parts.  For stages this means
that the type is spelled out: every stage of a flow that was read bears the full
name of its type.
-/

namespace StageGraph

namespace Checked

variable {α β : Type}

theorem map_eq_ok {ε : Type} {step : α → β} {checked : Except ε α} {value : β}
    (done : checked.map step = .ok value) :
    ∃ part, checked = .ok part ∧ step part = value := by
  cases checked with
  | error issues => cases done
  | ok part => exact ⟨part, rfl, Except.ok.inj done⟩

theorem bind_eq_ok {ε : Type} {step : α → Except ε β} {checked : Except ε α} {value : β}
    (done : checked >>= step = .ok value) :
    ∃ part, checked = .ok part ∧ step part = .ok value := by
  cases checked with
  | error issues => cases done
  | ok part => exact ⟨part, rfl, done⟩

theorem mapM_eq_ok_iff {ε : Type} {step : α → Except ε β} {items : List α}
    {results : List β} :
    items.mapM step = .ok results ↔ items.map step = results.map .ok := by
  induction items generalizing results with
  | nil => cases results <;> simp [pure, Except.pure]
  | cons item rest induction =>
      constructor
      · intro done
        rw [List.mapM_cons] at done
        cases head : step item with
        | error fault => rw [head] at done; cases done
        | ok result =>
            cases tail : rest.mapM step with
            | error fault => rw [head, tail] at done; cases done
            | ok later =>
                rw [head, tail] at done
                obtain rfl := Except.ok.inj done
                rw [List.map_cons, head, induction.mp tail, List.map_cons]
      · intro listed
        cases results with
        | nil => cases listed
        | cons result later =>
            obtain ⟨head, tail⟩ := List.cons.inj listed
            rw [List.mapM_cons, head, induction.mpr tail]
            rfl

/-- Where all failures are the same, one of them is that of the whole. -/
theorem mapM_of_fault {ε : Type} {step : α → Except ε β} {fault : ε} {items : List α} {item : α}
    (only : ∀ other ∈ items, ∀ failure, step other = .error failure → failure = fault)
    (member : item ∈ items) (fails : step item = .error fault) :
    items.mapM step = .error fault := by
  induction items with
  | nil => cases member
  | cons first rest induction =>
      rw [List.mapM_cons]
      cases head : step first with
      | error failure =>
          obtain rfl := only first List.mem_cons_self failure head
          rfl
      | ok result =>
          have later : item ∈ rest := by
            rcases List.mem_cons.mp member with rfl | later
            · rw [fails] at head
              cases head
            · exact later
          rw [induction (fun other inRest => only other (List.mem_cons_of_mem _ inRest)) later]
          rfl

theorem under_eq_ok_iff {place : Place} {checked : Checked α} {value : α} :
    under place checked = .ok value ↔ checked = .ok value := by
  cases checked <;> simp [under]

theorem both_eq_ok_iff {left : Checked α} {right : Checked β} {pair : α × β} :
    both left right = .ok pair ↔ left = .ok pair.1 ∧ right = .ok pair.2 := by
  cases left <;> cases right <;> simp [both, Prod.ext_iff]

theorem text_eq_ok_iff {value : Value} {content : String} :
    text value = .ok content ↔ value.asText? = some content := by
  unfold text
  cases value.asText? <;> simp [fail]

/-- A member that had to be there was there, and was read. -/
theorem required_eq_ok {entries : Config} {name : String}
    {read : Value → Checked α} {value : α}
    (done : required entries name read = .ok value) :
    ∃ given, Ledger.get? entries name = some given ∧ read given = .ok value := by
  have inside := under_eq_ok_iff.mp done
  split at inside
  · rename_i given found
    exact ⟨given, found, inside⟩
  · cases inside

/-- A member with a default was not there, or was read. -/
theorem withDefault_eq_ok {entries : Config} {name : String} {default value : α}
    {read : Value → Checked α}
    (done : withDefault entries name default read = .ok value) :
    value = default ∨ ∃ given, read given = .ok value := by
  unfold withDefault at done
  split at done
  · rename_i given _
    exact .inr ⟨given, under_eq_ok_iff.mp done⟩
  · cases done
    exact .inl rfl

/-- A member that may be null is nothing, or was there with another value and was read. -/
theorem optional_eq_ok {entries : Config} {name : String} {part : Option α}
    {read : Value → Checked α}
    (done : withDefault entries name none (optional read) = .ok part) :
    part = none ∨ ∃ value item, Ledger.get? entries name = some value ∧ value ≠ .null ∧
      read value = .ok item ∧ part = some item := by
  unfold withDefault at done
  split at done
  · rename_i value found
    have inside := under_eq_ok_iff.mp done
    unfold optional at inside
    split at inside
    · cases inside
      exact .inl rfl
    · rename_i notNull
      obtain ⟨item, itemRead, rfl⟩ := map_eq_ok inside
      exact .inr ⟨value, item, found, notNull, itemRead, rfl⟩
  · cases done
    exact .inl rfl

/-- Every item of a list that was read was read from some value. -/
theorem of_mem_each {read : Value → Checked α} {place : Nat} {values : List Value}
    {items : List α} (done : each read place values = .ok items)
    {item : α} (member : item ∈ items) : ∃ value, read value = .ok item := by
  induction values generalizing place items with
  | nil =>
      cases done
      cases member
  | cons value rest induction =>
      obtain ⟨pair, parts, rfl⟩ := map_eq_ok done
      obtain ⟨head, later⟩ := both_eq_ok_iff.mp parts
      rcases List.mem_cons.mp member with rfl | member
      · exact ⟨value, under_eq_ok_iff.mp head⟩
      · exact induction later member

theorem of_mem_list {read : Value → Checked α} {value : Value} {items : List α}
    (done : list read value = .ok items) {item : α} (member : item ∈ items) :
    ∃ part, read part = .ok item := by
  cases value with
  | list values => exact of_mem_each done member
  | _ => cases done

end Checked

theorem Stage.canonical_type_of_read {origin : Origin} {value : Value} {stage : Stage}
    (done : Stage.read origin value = .ok stage) :
    TypeName.canonical stage.type = stage.type := by
  obtain ⟨entries, _, done⟩ := Checked.bind_eq_ok done
  obtain ⟨⟨id, type, category, configuration⟩, parts, rest⟩ := Checked.bind_eq_ok done
  cases rest
  have later := (Checked.both_eq_ok_iff.mp parts).2
  have typeDone := (Checked.both_eq_ok_iff.mp later).1
  obtain ⟨given, _, spelled⟩ := Checked.required_eq_ok typeDone
  cases spelled
  exact TypeName.canonical_ofValue given

/-- All stages bear the full names of their types. -/
def Flow.HasFullTypes (flow : Flow) : Prop :=
  ∀ stage ∈ flow.stages, TypeName.canonical stage.type = stage.type

instance (flow : Flow) : Decidable flow.HasFullTypes :=
  inferInstanceAs (Decidable (∀ stage ∈ flow.stages, _))

/-- A flow that was read has full type names. -/
theorem Flow.hasFullTypes_of_read {origin : Origin} {value : Value} {flow : Flow}
    (done : Flow.read origin value = .ok flow) : flow.HasFullTypes := by
  obtain ⟨entries, _, done⟩ := Checked.bind_eq_ok done
  obtain ⟨⟨stages, links⟩, parts, rest⟩ := Checked.bind_eq_ok done
  cases rest
  have stagesDone := (Checked.both_eq_ok_iff.mp parts).1
  intro stage member
  rcases Checked.withDefault_eq_ok stagesDone with rfl | ⟨given, listed⟩
  · cases member
  · obtain ⟨part, read⟩ := Checked.of_mem_list listed member
    exact Stage.canonical_type_of_read read

end StageGraph
