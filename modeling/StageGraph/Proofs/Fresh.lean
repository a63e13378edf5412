import Mathlib.Data.List.Nodup
import Mathlib.Data.List.Perm.Subperm
import StageGraph.Fresh

/-!
# Fresh names are fresh

No two counters make the same candidate, so among one more candidate than there
are taken names some candidate is free, and the search ends with a name that is
not taken.  A base that is free is picked as it is.
-/

namespace StageGraph.Fresh

theorem candidate_succ_ne_base (base : String) (counter : Nat) :
    candidate base (counter + 1) ≠ base := by
  intro same
  have lengths := congrArg String.length same
  simp only [candidate, Nat.add_eq_zero_iff, Nat.one_ne_zero, and_false, if_false,
    String.length_append] at lengths
  have mark : "-".length = 1 := rfl
  omega

theorem candidate_injective (base : String) : Function.Injective (candidate base) := by
  rintro (_ | left) (_ | right) same
  · rfl
  · exact absurd same.symm (candidate_succ_ne_base base right)
  · exact absurd same (candidate_succ_ne_base base left)
  · simp only [candidate, Nat.add_eq_zero_iff, Nat.one_ne_zero, and_false, if_false,
      String.append_right_inj] at same
    have digits : Nat.toDigits 10 (left + 1) = Nat.toDigits 10 (right + 1) :=
      String.ofList_injective same
    have numbers := congrArg (fun digits => Nat.ofDigitChars 10 digits 0) digits
    simpa only [Nat.ofDigitChars_ten_toDigits] using numbers

/-- Taken names are too few for all candidates. -/
theorem exists_candidate_not_mem (base : String) (taken : List String) :
    ∃ name ∈ (List.range (taken.length + 1)).map (candidate base), name ∉ taken := by
  by_contra all
  have within : (List.range (taken.length + 1)).map (candidate base) ⊆ taken := by
    intro name member
    by_contra free
    exact all ⟨name, member, free⟩
  have nodup : ((List.range (taken.length + 1)).map (candidate base)).Nodup :=
    List.nodup_range.map (candidate_injective base)
  have lengths := (nodup.subperm within).length_le
  rw [List.length_map, List.length_range] at lengths
  omega

theorem pick_not_mem (base : String) (taken : List String) : pick base taken ∉ taken := by
  unfold pick
  cases found : ((List.range (taken.length + 1)).map (candidate base)).find?
      fun name => !taken.contains name with
  | none =>
      obtain ⟨name, member, free⟩ := exists_candidate_not_mem base taken
      have rejected := List.find?_eq_none.mp found name member
      simp [free] at rejected
  | some name =>
      have accepted := List.find?_some found
      simpa using accepted

theorem pick_of_not_mem {base : String} {taken : List String} (free : base ∉ taken) :
    pick base taken = base := by
  simp [pick, List.range_succ_eq_map, candidate, free]

end StageGraph.Fresh
