import Mathlib.Data.List.Basic
import StageGraph.Text.Case

/-!
# Lower case stays

No character that a lower-case form is made of has another lower-case form, and
none of them is a capital sigma, whose form depends on its neighbours.  So a text
in lower case is its own lower-case form.  For letters outside ASCII this is a
property of the table: no run covers what another run maps to.
-/

namespace StageGraph.Text

/-- The character is its own lower-case form, wherever it stands. -/
def IsLower (c : Char) : Prop :=
  lowerChar c = [c] ∧ c ≠ 'Σ'

instance (c : Char) : Decidable (IsLower c) :=
  inferInstanceAs (Decidable (_ ∧ _))

/-! ## The images of runs -/

namespace CaseRun

/-- The code point that the first one of a run maps to. -/
def first (run : CaseRun) : Nat :=
  ((run.low : Int) + run.shift).toNat

/-- The code point that the last one of a run maps to. -/
def last (run : CaseRun) : Nat :=
  ((run.high : Int) + run.shift).toNat

/-- All images of a run are code points of characters. -/
def hasCharacters (run : CaseRun) : Bool :=
  0 ≤ (run.low : Int) + run.shift &&
    (run.last < 0xD800 || (0xDFFF < run.first && run.last < 0x110000))

/-- No image of a run is covered by another one: the ranges lie apart, or both take
every other code point and start at different parities. -/
def leaves (run other : CaseRun) : Bool :=
  Nat.blt run.last other.low || Nat.blt other.high run.first ||
    ((run.stride == 2 || run.low == run.high) && other.stride == 2 &&
      (run.first + other.low) % 2 == 1)

variable {run other : CaseRun} {code image : Nat}

theorem image?_eq_some_iff : run.image? code = some image ↔
    (run.low ≤ code ∧ code ≤ run.high ∧ (code - run.low) % run.stride = 0) ∧
      ((code : Int) + run.shift).toNat = image := by
  simp [image?]

theorem image?_eq_none_of_leaves (proper : run.hasCharacters = true)
    (leaves : run.leaves other = true) (mapped : run.image? code = some image) :
    other.image? image = none := by
  obtain ⟨⟨above, below, step⟩, rfl⟩ := image?_eq_some_iff.mp mapped
  simp only [hasCharacters, Bool.and_eq_true, decide_eq_true_eq] at proper
  simp only [CaseRun.leaves, Bool.or_eq_true, Bool.and_eq_true, Nat.blt_eq,
    beq_iff_eq] at leaves
  have start := proper.1
  rw [image?, if_neg]
  rintro ⟨otherAbove, otherBelow, otherStep⟩
  unfold first last at leaves
  rcases leaves with (after | before) | ⟨⟨two | single, otherTwo⟩, parity⟩
  · omega
  · omega
  · rw [two] at step
    rw [otherTwo] at otherStep
    omega
  · rw [otherTwo] at otherStep
    omega

theorem isValidChar_of_image? (proper : run.hasCharacters = true)
    (mapped : run.image? code = some image) : image.isValidChar := by
  obtain ⟨⟨above, below, step⟩, rfl⟩ := image?_eq_some_iff.mp mapped
  simp only [hasCharacters, Bool.and_eq_true, Bool.or_eq_true, decide_eq_true_eq] at proper
  unfold first last at proper
  rcases proper with ⟨start, low | ⟨high, limit⟩⟩
  · left
    omega
  · right
    omega

end CaseRun

theorem lowerRuns_hasCharacters :
    ∀ run ∈ lowerRuns, run.hasCharacters = true := by
  decide +kernel

theorem lowerRuns_leave : (lowerRuns.all fun run =>
    lowerRuns.all fun other => run.leaves other) = true := by
  decide +kernel

theorem lowerRuns_leave_expansions : (lowerRuns.all fun run =>
    lowerExpansions.all fun entry => run.leaves ⟨entry.1, entry.1, 1, 0⟩) = true := by
  decide +kernel

/-! ## Characters -/

theorem isLower_of_ascii {code : Nat} (ascii : code < 128)
    (small : ¬ (65 ≤ code ∧ code ≤ 90)) : IsLower (Char.ofNat code) := by
  have all : ∀ code < 128, ¬ (65 ≤ code ∧ code ≤ 90) → IsLower (Char.ofNat code) := by
    decide +kernel
  exact all code ascii small

theorem isLower_of_toLower {c : Char} (ascii : c.toNat < 128) : IsLower c.toLower := by
  have all : ∀ code < 128, IsLower (Char.ofNat code).toLower := by
    decide +kernel
  simpa using all c.toNat ascii

theorem isLower_of_image? {run : CaseRun} {code image : Nat} (member : run ∈ lowerRuns)
    (mapped : run.image? code = some image) : IsLower (Char.ofNat image) := by
  have proper := lowerRuns_hasCharacters run member
  have leaves := List.all_eq_true.mp lowerRuns_leave run member
  have uncovered : ∀ other ∈ lowerRuns, other.image? image = none := by
    intro other otherMember
    exact CaseRun.image?_eq_none_of_leaves proper
      (List.all_eq_true.mp leaves other otherMember) mapped
  by_cases ascii : image < 128
  · apply isLower_of_ascii ascii
    rintro ⟨above, below⟩
    have covered := uncovered ⟨65, 90, 1, 32⟩ List.mem_cons_self
    simp [CaseRun.image?, above, below, Nat.mod_one] at covered
  · have code : (Char.ofNat image).toNat = image := by
      have valid := CaseRun.isValidChar_of_image? proper mapped
      rw [Char.ofNat, dif_pos valid]
      rfl
    have unexpanded : lowerExpansions.lookup image = none := by
      apply List.lookup_eq_none_iff.mpr
      intro entry entryMember
      have apart := CaseRun.image?_eq_none_of_leaves proper
        (List.all_eq_true.mp
          (List.all_eq_true.mp lowerRuns_leave_expansions run member) entry entryMember) mapped
      simp only [CaseRun.image?, ite_eq_right_iff, reduceCtorEq, imp_false] at apart
      simp only [bne_iff_ne, ne_eq]
      rintro rfl
      exact apart ⟨Nat.le_refl _, Nat.le_refl _, by simp⟩
    have unmapped : lowerRuns.findSome? (·.image? image) = none :=
      List.findSome?_eq_none_iff.mpr uncovered
    constructor
    · rw [lowerChar, code, if_neg ascii, mapCode, code, unexpanded, unmapped]
    · intro sigma
      have value : image = 931 := by
        rw [← code, sigma]
        rfl
      have covered : (lowerRuns.any fun run => (run.image? 931).isSome) = true := by
        decide +kernel
      obtain ⟨other, otherMember, covers⟩ := List.any_eq_true.mp covered
      rw [← value, uncovered other otherMember] at covers
      cases covers

/-- The lower-case form of a character consists of lower-case characters. -/
theorem isLower_of_mem_lowerChar {c mapped : Char} (notSigma : c ≠ 'Σ')
    (member : mapped ∈ lowerChar c) : IsLower mapped := by
  by_cases ascii : c.toNat < 128
  · rw [lowerChar, if_pos ascii, List.mem_singleton] at member
    rw [member]
    exact isLower_of_toLower ascii
  · have lowered : lowerChar c = mapCode lowerExpansions lowerRuns c := by
      rw [lowerChar, if_neg ascii]
    unfold mapCode at lowered
    split at lowered
    · rename_i codes expanded
      have entry : (c.toNat, codes) ∈ lowerExpansions := by
        obtain ⟨before, after, split, _⟩ := List.lookup_eq_some_iff.mp expanded
        simp [split]
      have all : ∀ entry ∈ lowerExpansions, ∀ code ∈ entry.2, IsLower (Char.ofNat code) := by
        decide +kernel
      rw [lowered] at member
      obtain ⟨code, codeMember, rfl⟩ := List.mem_map.mp member
      exact all _ entry code codeMember
    · split at lowered
      · rename_i code found
        obtain ⟨run, runMember, mappedTo⟩ := List.exists_of_findSome?_eq_some found
        rw [lowered, List.mem_singleton] at member
        rw [member]
        exact isLower_of_image? runMember mappedTo
      · have same : mapped = c := by simpa [lowered] using member
        rw [same]
        exact ⟨lowered, notSigma⟩

/-! ## Texts -/

theorem isLower_of_mem_lowerAfter {before cs : List Char} {c : Char}
    (member : c ∈ lowerAfter before cs) : IsLower c := by
  induction cs generalizing before with
  | nil => cases member
  | cons head rest induction =>
      rcases List.mem_append.mp member with mapped | later
      · by_cases sigma : head = 'Σ'
        · have final : IsLower 'ς' := by decide +kernel
          have medial : IsLower 'σ' := by decide +kernel
          rw [if_pos sigma] at mapped
          split at mapped
          · rwa [List.mem_singleton.mp mapped]
          · rwa [List.mem_singleton.mp mapped]
        · rw [if_neg sigma] at mapped
          exact isLower_of_mem_lowerChar sigma mapped
      · exact induction later

theorem lowerAfter_eq_self {cs : List Char} (lower : ∀ c ∈ cs, IsLower c)
    (before : List Char) : lowerAfter before cs = cs := by
  induction cs generalizing before with
  | nil => rfl
  | cons head rest induction =>
      obtain ⟨⟨same, notSigma⟩, restLower⟩ := List.forall_mem_cons.mp lower
      rw [lowerAfter, if_neg notSigma, same, induction restLower, List.singleton_append]

@[simp] theorem lower_lower (text : String) : lower (lower text) = lower text := by
  have settled : lowerAfter [] (lowerAfter [] text.toList) = lowerAfter [] text.toList := by
    apply lowerAfter_eq_self
    intro c member
    exact isLower_of_mem_lowerAfter member
  rw [lower, lower, String.toList_ofList, settled]

end StageGraph.Text
