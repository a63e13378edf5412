import Mathlib.Data.Nat.Find
import Mathlib.Order.Bounds.Defs
import StageGraph.Proofs.Distinct
import StageGraph.Proofs.Fresh
import StageGraph.StageId

/-!
# The search for a fresh id

The id of a new stage is found by trial: the base by itself, then the base with the counters
one, two and so on, until a name is free.  No bound is set on the trials.  But every trial
that fails meets another one of the names in use, so there are at most as many of them as
there are different names, and the counter at which the search ends is the least that makes
a free name.
-/

namespace StageGraph.Fresh

/-- A name that is tried, and the counter for the name after it. -/
structure Trial where
  name : String
  counter : Nat

namespace Trial

/-- The base is tried first. -/
def start (base : String) : Trial :=
  { name := base, counter := 1 }

def next (base : String) (trial : Trial) : Trial :=
  { name := base ++ "-" ++ toString trial.counter, counter := trial.counter + 1 }

/-- The trial of the candidate with a counter. -/
def numbered (base : String) (counter : Nat) : Trial :=
  { name := candidate base counter, counter := counter + 1 }

theorem start_eq (base : String) : start base = .numbered base 0 :=
  rfl

theorem next_numbered (base : String) (counter : Nat) :
    (Trial.numbered base counter).next base = .numbered base (counter + 1) :=
  rfl

end Trial

/-- A search goes on while the name of its trial is taken, and ends with the first one that
is free.  So many trials fail on the way. -/
inductive Search (base : String) (taken : List String) : Nat → Trial → Trial → Prop where
  | free {trial : Trial} (isFree : trial.name ∉ taken) : Search base taken 0 trial trial
  | again {failed : Nat} {trial last : Trial} (isTaken : trial.name ∈ taken)
      (later : Search base taken failed (trial.next base) last) :
      Search base taken (failed + 1) trial last

variable {base : String} {taken : List String} {counter least : Nat}

/-- A search that meets taken candidates only until some counter ends there. -/
theorem search_of_taken (counter failed : Nat)
    (allTaken : ∀ step < failed, candidate base (counter + step) ∈ taken)
    (isFree : candidate base (counter + failed) ∉ taken) :
    Search base taken failed (.numbered base counter) (.numbered base (counter + failed)) := by
  induction failed generalizing counter with
  | zero => exact .free isFree
  | succ failed induction =>
      have shifted (step : Nat) : counter + 1 + step = counter + (step + 1) := by omega
      have later := induction (counter + 1)
        (fun step below => shifted step ▸ allTaken (step + 1) (Nat.succ_lt_succ below))
        (shifted failed ▸ isFree)
      rw [shifted, ← Trial.next_numbered] at later
      exact .again (allTaken 0 (Nat.succ_pos failed)) later

/-- As many different names are taken as candidates are. -/
theorem le_length_distinct (allTaken : ∀ step < counter, candidate base step ∈ taken) :
    counter ≤ (distinct taken).length := by
  have nodup : ((List.range counter).map (candidate base)).Nodup :=
    List.nodup_range.map (candidate_injective base)
  have within : (List.range counter).map (candidate base) ⊆ distinct taken := by
    intro name member
    obtain ⟨step, inRange, rfl⟩ := List.mem_map.mp member
    exact mem_distinct.mpr (allTaken step (List.mem_range.mp inRange))
  have lengths := (nodup.subperm within).length_le
  rwa [List.length_map, List.length_range] at lengths

theorem exists_least_free (base : String) (taken : List String) :
    ∃ least, candidate base least ∉ taken ∧
      ∀ counter < least, candidate base counter ∈ taken := by
  have someFree : ∃ counter, candidate base counter ∉ taken := by
    obtain ⟨name, member, free⟩ := exists_candidate_not_mem base taken
    obtain ⟨counter, _, rfl⟩ := List.mem_map.mp member
    exact ⟨counter, free⟩
  exact ⟨Nat.find someFree, Nat.find_spec someFree, fun counter below =>
    not_not.mp (Nat.find_min someFree below)⟩

/-- The candidate with the least free counter is picked. -/
theorem pick_eq_candidate (isFree : candidate base least ∉ taken)
    (allTaken : ∀ counter < least, candidate base counter ∈ taken) :
    pick base taken = candidate base least := by
  have inRange : least < taken.length + 1 :=
    Nat.lt_succ_of_le (Nat.le_trans (le_length_distinct allTaken) (length_distinct_le taken))
  have found : (List.range (taken.length + 1)).find?
      (fun counter => !taken.contains (candidate base counter)) = some least := by
    rw [List.find?_range_eq_some]
    refine ⟨by simpa using isFree, List.mem_range.mpr inRange, fun counter below => ?_⟩
    simpa using allTaken counter below
  rw [pick, List.find?_map]
  simp only [Function.comp_def, found, Option.map_some, Option.getD_some]

end StageGraph.Fresh

namespace StageGraph.StageId

open Fresh

/-- The search for an id ends after at most as many failed trials as there are different ids,
with the id that is given to the stage.  That is the type and the stamp alone when this is
free, and otherwise has the least counter behind it that makes it free. -/
theorem generate_ends_least (type : String) (existing : List String) (stamp : String) :
    ∃ failed last,
      Search (base (TypeName.canonical type) stamp) existing failed
        (.start (base (TypeName.canonical type) stamp)) last ∧
      failed ≤ (distinct existing).length ∧
      generate type existing stamp = last.name ∧
      last.name ∉ existing ∧
      ((TypeName.canonical type ++ "-" ++ stamp ∉ existing ∧
          last.name = TypeName.canonical type ++ "-" ++ stamp) ∨
        (TypeName.canonical type ++ "-" ++ stamp ∈ existing ∧ ∃ counter,
          IsLeast {counter | 1 ≤ counter ∧
            TypeName.canonical type ++ "-" ++ stamp ++ "-" ++ toString counter ∉ existing}
            counter ∧
          last.name =
            TypeName.canonical type ++ "-" ++ stamp ++ "-" ++ toString counter)) := by
  obtain ⟨least, isFree, allTaken⟩ :=
    exists_least_free (base (TypeName.canonical type) stamp) existing
  have ends := search_of_taken 0 least
    (fun step below => by simpa using allTaken step below) (by simpa using isFree)
  rw [Nat.zero_add, ← Trial.start_eq] at ends
  refine ⟨least, _, ends, le_length_distinct allTaken, pick_eq_candidate isFree allTaken,
    isFree, ?_⟩
  cases least with
  | zero => exact .inl ⟨isFree, rfl⟩
  | succ least =>
      refine .inr ⟨allTaken 0 (Nat.succ_pos least), least + 1,
        ⟨⟨Nat.succ_pos least, isFree⟩, ?_⟩, rfl⟩
      rintro counter ⟨positive, counterFree⟩
      obtain ⟨below, rfl⟩ := Nat.exists_eq_add_of_le' positive
      exact Nat.le_of_not_lt fun less => counterFree (allTaken (below + 1) less)

end StageGraph.StageId
