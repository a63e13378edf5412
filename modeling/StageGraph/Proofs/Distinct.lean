import StageGraph.Distinct

/-!
# Laws of first occurrences

`distinct` is the identity exactly on lists without repeats, and a list that is
joined from parts may have its parts cleared of repeats first: only the first
occurrence in the whole list counts.
-/

namespace StageGraph

variable {α β : Type} [DecidableEq α]

theorem nodup_distinct (items : List α) : (distinct items).Nodup := by
  induction items with
  | nil => exact List.nodup_nil
  | cons head rest induction =>
      have absent : head ∉ (distinct rest).filter (· ≠ head) := by
        simp
      exact List.nodup_cons.mpr ⟨absent, induction.filter _⟩

theorem distinct_eq_self {items : List α} (nodup : items.Nodup) :
    distinct items = items := by
  induction items with
  | nil => rfl
  | cons head rest induction =>
      obtain ⟨absent, restNodup⟩ := List.nodup_cons.mp nodup
      have kept : rest.filter (· ≠ head) = rest := by
        apply List.filter_eq_self.mpr
        intro item member
        have different : item ≠ head := by
          intro same
          exact absent (same ▸ member)
        simpa using different
      rw [distinct, induction restNodup, kept]

theorem length_distinct_le (items : List α) :
    (distinct items).length ≤ items.length := by
  induction items with
  | nil => exact Nat.le_refl 0
  | cons head rest induction =>
      have filtered := List.length_filter_le (· ≠ head) (distinct rest)
      simp only [distinct, List.length_cons]
      omega

/-- Repeats are what makes `distinct` shorter than the list itself. -/
theorem length_distinct_eq_iff (items : List α) :
    (distinct items).length = items.length ↔ items.Nodup := by
  constructor
  · intro sameLength
    induction items with
    | nil => exact List.nodup_nil
    | cons head rest induction =>
        have filtered := List.length_filter_le (· ≠ head) (distinct rest)
        have shorter := length_distinct_le rest
        simp only [distinct, List.length_cons] at sameLength
        have restNodup : rest.Nodup := induction (by omega)
        have unfiltered :
            ((distinct rest).filter (· ≠ head)).length =
              (distinct rest).length := by
          omega
        have absent : head ∉ rest := by
          intro member
          have kept := List.length_filter_eq_length_iff.mp unfiltered head
            (mem_distinct.mpr member)
          simp at kept
        exact List.nodup_cons.mpr ⟨absent, restNodup⟩
  · intro nodup
    rw [distinct_eq_self nodup]

theorem distinct_append (left right : List α) :
    distinct (left ++ right) =
      distinct left ++ (distinct right).filter (· ∉ left) := by
  induction left with
  | nil =>
      have kept : (distinct right).filter (· ∉ []) = distinct right :=
        List.filter_eq_self.mpr (by simp)
      simp only [List.nil_append, distinct, kept]
  | cons head rest induction =>
      have merged :
          ((distinct right).filter (· ∉ rest)).filter (· ≠ head) =
            (distinct right).filter (· ∉ head :: rest) := by
        rw [List.filter_filter]
        congr 1
        funext item
        simp [not_or]
      simp only [List.cons_append, distinct, induction, List.filter_append,
        merged]

theorem distinct_append_congr {left other right rest : List α}
    (leftSame : distinct left = distinct other)
    (rightSame : distinct right = distinct rest) :
    distinct (left ++ right) = distinct (other ++ rest) := by
  have sameMembers : ∀ item, item ∈ left ↔ item ∈ other := by
    intro item
    rw [← mem_distinct, leftSame, mem_distinct]
  simp only [distinct_append, leftSame, rightSame, sameMembers]

theorem distinct_filter (keep : α → Bool) (items : List α) :
    distinct (items.filter keep) = (distinct items).filter keep := by
  induction items with
  | nil => rfl
  | cons head rest induction =>
      by_cases kept : keep head = true
      · simp [kept, distinct, induction, List.filter_filter, Bool.and_comm]
      · have unaffected : ∀ item ∈ distinct rest,
            (keep item && decide (item ≠ head)) = keep item := by
          intro item _
          by_cases same : item = head <;> simp_all
        simp only [List.filter_cons_of_neg kept, distinct, induction, List.filter_filter]
        exact (List.filter_congr unaffected).symm

/-- What stands in front already may stand behind once more. -/
theorem distinct_append_distinct_append (left right : List α) :
    distinct (left ++ distinct (left ++ right)) = distinct (left ++ right) := by
  have none : (distinct left).filter (· ∉ left) = [] :=
    List.filter_eq_nil_iff.mpr fun item member => by simpa using mem_distinct.mp member
  rw [distinct_append, distinct_eq_self (nodup_distinct (left ++ right)),
    distinct_append left right, List.filter_append, none, List.filter_filter]
  simp

/-- Clearing the parts of repeats first changes nothing. -/
theorem distinct_flatMap_distinct (parts : β → List α) (keys : List β) :
    distinct (keys.flatMap fun key => distinct (parts key)) =
      distinct (keys.flatMap parts) := by
  induction keys with
  | nil => rfl
  | cons key rest induction =>
      have idempotent : distinct (distinct (parts key)) =
          distinct (parts key) :=
        distinct_eq_self (nodup_distinct _)
      simpa using distinct_append_congr idempotent induction

end StageGraph
