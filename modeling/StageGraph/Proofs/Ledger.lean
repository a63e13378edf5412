import Mathlib.Data.List.Induction
import StageGraph.Ledger
import StageGraph.Proofs.Distinct

/-!
# Laws of ledgers

Looking up finds an entry, and the one entry when no key repeats.  Entries whose
keys are new are written at the end, so a ledger that is built from entries
without repeated keys is the list of these entries.  Repeated keys are what makes
it shorter.
-/

namespace StageGraph.Ledger

variable {α : Type} {ledger : Ledger α} {key : String} {value : α}

theorem mem_of_get?_eq_some (found : get? ledger key = some value) :
    (key, value) ∈ ledger := by
  induction ledger with
  | nil => cases found
  | cons entry rest induction =>
      obtain ⟨other, held⟩ := entry
      by_cases same : other = key
      · simp only [get?, if_pos same, Option.some.injEq] at found
        simp [same, found]
      · simp only [get?, if_neg same] at found
        exact List.mem_cons_of_mem _ (induction found)

theorem get?_eq_none_iff : get? ledger key = none ↔ key ∉ keys ledger := by
  induction ledger with
  | nil => simp [get?, keys]
  | cons entry rest induction =>
      obtain ⟨other, held⟩ := entry
      by_cases same : other = key
      · simp [get?, keys, same]
      · simpa [get?, keys, same, Ne.symm same] using induction

theorem get?_eq_some_of_mem (nodup : (keys ledger).Nodup)
    (member : (key, value) ∈ ledger) : get? ledger key = some value := by
  induction ledger with
  | nil => cases member
  | cons entry rest induction =>
      obtain ⟨other, held⟩ := entry
      obtain ⟨absent, restNodup⟩ := List.nodup_cons.mp nodup
      rcases List.mem_cons.mp member with same | member
      · cases same
        simp [get?]
      · have different : other ≠ key := by
          rintro rfl
          exact absent (List.mem_map.mpr ⟨_, member, rfl⟩)
        rw [get?, if_neg different]
        exact induction restNodup member

theorem put_of_not_mem (absent : key ∉ keys ledger) (value : α) :
    put ledger key value = ledger ++ [(key, value)] := by
  induction ledger with
  | nil => rfl
  | cons entry rest induction =>
      obtain ⟨other, held⟩ := entry
      have different : other ≠ key := by
        rintro rfl
        exact absent List.mem_cons_self
      have restAbsent : key ∉ keys rest := fun member =>
        absent (List.mem_cons_of_mem _ member)
      rw [put, if_neg different, induction restAbsent]
      rfl

theorem get?_put (ledger : Ledger α) (key : String) (value : α) (other : String) :
    get? (put ledger key value) other =
      if key = other then some value else get? ledger other := by
  induction ledger with
  | nil => rfl
  | cons entry rest induction =>
      obtain ⟨name, held⟩ := entry
      by_cases same : name = key
      · by_cases wanted : key = other <;> simp [put, get?, same, wanted]
      · rw [put, if_neg same, get?, get?, induction]
        by_cases first : name = other
        · have different : key ≠ other := fun wanted => same (first.trans wanted.symm)
          simp [first, different]
        · simp [first]

theorem has_put (ledger : Ledger α) (key : String) (value : α) (other : String) :
    has (put ledger key value) other = (decide (key = other) || has ledger other) := by
  rw [has, get?_put]
  by_cases same : key = other <;> simp [same, has]

theorem of_get?_put {other : String} {held : α}
    (found : get? (put ledger key value) other = some held) :
    (key = other ∧ held = value) ∨ (key ≠ other ∧ get? ledger other = some held) := by
  rw [get?_put] at found
  split at found
  · rename_i same
    exact .inl ⟨same, (Option.some.inj found).symm⟩
  · rename_i different
    exact .inr ⟨different, found⟩

theorem putAll_of_nodup {entries : List (String × α)}
    (nodup : (keys ledger ++ keys entries).Nodup) :
    putAll ledger entries = ledger ++ entries := by
  induction entries generalizing ledger with
  | nil => simp [putAll]
  | cons entry rest induction =>
      have absent : entry.1 ∉ keys ledger := by
        intro member
        exact (List.nodup_append.mp nodup).2.2 _ member _ List.mem_cons_self rfl
      have step : putAll ledger (entry :: rest) =
          putAll (put ledger entry.1 entry.2) rest := rfl
      rw [step, put_of_not_mem absent, induction]
      · simp
      · simpa [keys] using nodup

theorem keys_put (ledger : Ledger α) (key : String) (value : α) :
    keys (put ledger key value) =
      if key ∈ keys ledger then keys ledger else keys ledger ++ [key] := by
  induction ledger with
  | nil => simp [put, keys]
  | cons entry rest induction =>
      obtain ⟨other, held⟩ := entry
      by_cases same : other = key
      · simp [put, keys, same]
      · have different : key ≠ other := Ne.symm same
        simp only [keys] at induction
        by_cases later : key ∈ rest.map Prod.fst <;>
          simp [put, keys, same, different, induction, later]

theorem keys_put_of_mem (member : key ∈ keys ledger) (value : α) :
    keys (put ledger key value) = keys ledger := by
  rw [keys_put, if_pos member]

/-- The keys stand in the order in which they were written first. -/
theorem keys_putAll (entries : List (String × α)) :
    keys (putAll [] entries) = distinct (keys entries) := by
  induction entries using List.reverseRecOn with
  | nil => rfl
  | append_singleton entries entry induction =>
      have last : putAll [] (entries ++ [entry]) =
          put (putAll [] entries) entry.1 entry.2 := by
        simp [putAll]
      have split : keys (entries ++ [entry]) = keys entries ++ [entry.1] := by
        simp [keys]
      rw [last, keys_put, induction, split, distinct_append]
      by_cases known : entry.1 ∈ keys entries <;> simp [distinct, known]

theorem keys_putAll_of_nodup (nodup : (keys ledger).Nodup) (entries : List (String × α)) :
    keys (putAll ledger entries) = distinct (keys ledger ++ keys entries) := by
  have written : putAll [] ledger = ledger := by
    rw [putAll_of_nodup (by simpa [keys] using nodup)]
    rfl
  have joined : putAll [] (ledger ++ entries) = putAll (putAll [] ledger) entries :=
    List.foldl_append
  rw [written] at joined
  rw [← joined, keys_putAll]
  simp [keys]

theorem length_putAll_eq_iff (entries : List (String × α)) :
    (putAll [] entries).length = entries.length ↔ (keys entries).Nodup := by
  rw [← length_distinct_eq_iff, ← keys_putAll]
  simp [keys]

theorem has_eq_true_iff : has ledger key = true ↔ key ∈ keys ledger := by
  rw [has, Option.isSome_iff_ne_none, ne_eq, get?_eq_none_iff, not_not]

theorem has_eq_false_iff : has ledger key = false ↔ key ∉ keys ledger := by
  rw [← has_eq_true_iff, Bool.not_eq_true]

/-! ## Entries that are taken away -/

theorem get?_erase (ledger : Ledger α) (key other : String) :
    get? (erase ledger key) other = if key = other then none else get? ledger other := by
  induction ledger with
  | nil => simp [erase, get?]
  | cons entry rest induction =>
      obtain ⟨name, held⟩ := entry
      simp only [erase] at induction
      by_cases erased : name = key
      · simp only [erase, List.filter_cons, erased, ne_eq, not_true_eq_false, decide_false,
          Bool.false_eq_true, if_false, induction, get?]
        by_cases wanted : key = other <;> simp [wanted]
      · simp only [erase, List.filter_cons, erased, ne_eq, not_false_eq_true, decide_true,
          if_true, induction, get?]
        by_cases first : name = other
        · have different : key ≠ other := fun wanted => erased (first.trans wanted.symm)
          simp [first, different]
        · simp [first]

theorem of_get?_erase {other : String} {held : α}
    (found : get? (erase ledger key) other = some held) : get? ledger other = some held := by
  rw [get?_erase] at found
  split at found
  · cases found
  · exact found

theorem keys_erase (ledger : Ledger α) (key : String) :
    keys (erase ledger key) = (keys ledger).filter (· ≠ key) := by
  simp [keys, erase, List.filter_map, Function.comp_def]

theorem erase_put_of_not_mem (absent : key ∉ keys ledger) (value : α) :
    erase (put ledger key value) key = ledger := by
  have kept : ledger.filter (fun entry => entry.1 ≠ key) = ledger := by
    apply List.filter_eq_self.mpr
    intro entry member
    apply decide_eq_true
    rintro rfl
    exact absent (List.mem_map.mpr ⟨entry, member, rfl⟩)
  rw [put_of_not_mem absent, erase, List.filter_append, kept]
  simp

theorem nodup_keys_put (nodup : (keys ledger).Nodup) (key : String) (value : α) :
    (keys (put ledger key value)).Nodup := by
  rw [keys_put]
  split
  · exact nodup
  · rename_i absent
    refine List.nodup_append.mpr ⟨nodup, List.nodup_cons.mpr ⟨List.not_mem_nil, List.nodup_nil⟩, ?_⟩
    rintro other member _ last rfl
    exact absent (List.mem_singleton.mp last ▸ member)

theorem nodup_keys_erase (nodup : (keys ledger).Nodup) (key : String) :
    (keys (erase ledger key)).Nodup := by
  rw [keys_erase]
  exact nodup.filter _

/-! ## Entries that are written over others -/

theorem mem_keys_put {other : String} :
    other ∈ keys (put ledger key value) ↔ other = key ∨ other ∈ keys ledger := by
  rw [keys_put]
  split
  · rename_i known
    constructor
    · exact .inr
    · rintro (rfl | member)
      · exact known
      · exact member
  · simp [or_comm]

theorem mem_keys_putAll {entries : List (String × α)} :
    key ∈ keys (putAll ledger entries) ↔ key ∈ keys ledger ∨ key ∈ keys entries := by
  induction entries generalizing ledger with
  | nil => simp [putAll, keys]
  | cons entry rest induction =>
      have step : putAll ledger (entry :: rest) =
          putAll (put ledger entry.1 entry.2) rest := rfl
      have split : key ∈ keys (entry :: rest) ↔ key = entry.1 ∨ key ∈ keys rest :=
        List.mem_cons
      rw [step, induction, mem_keys_put, split]
      tauto

theorem nodup_keys_putAll (nodup : (keys ledger).Nodup) (entries : List (String × α)) :
    (keys (putAll ledger entries)).Nodup := by
  induction entries generalizing ledger with
  | nil => exact nodup
  | cons entry rest induction => exact induction (nodup_keys_put nodup entry.1 entry.2)

/-- What is written over a ledger hides what is there. -/
theorem get?_putAll {entries : List (String × α)} (nodup : (keys entries).Nodup)
    (ledger : Ledger α) (key : String) :
    get? (putAll ledger entries) key = (get? entries key).or (get? ledger key) := by
  induction entries generalizing ledger with
  | nil => rfl
  | cons entry rest induction =>
      obtain ⟨name, held⟩ := entry
      obtain ⟨absent, restNodup⟩ := List.nodup_cons.mp nodup
      have step : putAll ledger ((name, held) :: rest) = putAll (put ledger name held) rest :=
        rfl
      rw [step, induction restNodup, get?_put]
      by_cases same : name = key
      · subst same
        have noLater : get? rest name = none := get?_eq_none_iff.mpr absent
        simp [get?, noLater]
      · simp [get?, same]

theorem get?_putAll_of_not_mem {entries : List (String × α)} (absent : key ∉ keys entries)
    (ledger : Ledger α) : get? (putAll ledger entries) key = get? ledger key := by
  induction entries generalizing ledger with
  | nil => rfl
  | cons entry rest induction =>
      have different : entry.1 ≠ key := by
        rintro rfl
        exact absent List.mem_cons_self
      have step : putAll ledger (entry :: rest) = putAll (put ledger entry.1 entry.2) rest := rfl
      rw [step, induction fun member => absent (List.mem_cons_of_mem _ member), get?_put,
        if_neg different]

/-- Writing what is there changes nothing. -/
theorem put_eq_self (found : get? ledger key = some value) : put ledger key value = ledger := by
  induction ledger with
  | nil => cases found
  | cons entry rest induction =>
      obtain ⟨other, held⟩ := entry
      by_cases same : other = key
      · rw [get?, if_pos same] at found
        rw [put, if_pos same, Option.some.inj found, same]
      · rw [get?, if_neg same] at found
        rw [put, if_neg same, induction found]

theorem putAll_eq_self {entries : List (String × α)}
    (found : ∀ entry ∈ entries, get? ledger entry.1 = some entry.2) :
    putAll ledger entries = ledger := by
  induction entries with
  | nil => rfl
  | cons entry rest induction =>
      have step : putAll ledger (entry :: rest) = putAll (put ledger entry.1 entry.2) rest := rfl
      rw [step, put_eq_self (found entry List.mem_cons_self)]
      exact induction fun other member => found other (List.mem_cons_of_mem _ member)

/-! ## Entries under other names -/

section

variable {β : Type} (name : String → String) (content : β → α)

/-- The entries under names that are made of their keys. -/
def relabel (ledger : Ledger β) : Ledger α :=
  ledger.map fun entry => (name entry.1, content entry.2)

@[simp] theorem keys_relabel (ledger : Ledger β) :
    keys (relabel name content ledger) = (keys ledger).map name := by
  simp [keys, relabel, Function.comp_def]

variable (injective : Function.Injective name)

include injective

theorem get?_relabel (ledger : Ledger β) (key : String) :
    get? (relabel name content ledger) (name key) = (get? ledger key).map content := by
  induction ledger with
  | nil => rfl
  | cons entry rest induction =>
      obtain ⟨other, held⟩ := entry
      simp only [relabel, List.map_cons, get?, injective.eq_iff]
      by_cases same : other = key
      · simp [same]
      · simpa [same, relabel] using induction

theorem put_relabel (ledger : Ledger β) (key : String) (value : β) :
    put (relabel name content ledger) (name key) (content value) =
      relabel name content (put ledger key value) := by
  induction ledger with
  | nil => rfl
  | cons entry rest induction =>
      obtain ⟨other, held⟩ := entry
      simp only [relabel] at induction
      by_cases same : other = key
      · simp [relabel, put, same]
      · simp [relabel, put, same, injective.eq_iff, induction]

theorem erase_relabel (ledger : Ledger β) (key : String) :
    erase (relabel name content ledger) (name key) =
      relabel name content (erase ledger key) := by
  simp [relabel, erase, List.filter_map, Function.comp_def, injective.eq_iff]

end

/-! ## Entries that are kept -/

theorem get?_append (ledger other : Ledger α) (key : String) :
    get? (ledger ++ other) key = (get? ledger key).or (get? other key) := by
  induction ledger with
  | nil => rfl
  | cons entry rest induction =>
      obtain ⟨name, held⟩ := entry
      by_cases same : name = key <;> simp [get?, same, induction]

theorem putNew_eq (ledger : Ledger α) (key : String) (value : α) :
    putNew ledger key value =
      if key ∈ keys ledger then ledger else ledger ++ [(key, value)] := by
  by_cases known : key ∈ keys ledger
  · rw [putNew, if_pos (has_eq_true_iff.mpr known), if_pos known]
  · rw [putNew, if_neg (known ∘ has_eq_true_iff.mp), if_neg known,
      put_of_not_mem known]

theorem mem_keys_putNew {other : String} :
    other ∈ keys (putNew ledger key value) ↔ other = key ∨ other ∈ keys ledger := by
  rw [putNew]
  split
  · rename_i known
    constructor
    · exact .inr
    · rintro (rfl | member)
      · exact has_eq_true_iff.mp known
      · exact member
  · exact mem_keys_put

theorem nodup_keys_putNew (nodup : (keys ledger).Nodup) (key : String) (value : α) :
    (keys (putNew ledger key value)).Nodup := by
  rw [putNew]
  split
  · exact nodup
  · exact nodup_keys_put nodup key value

section

variable {β : Type} (items : List β) (name : β → String) (content : β → α)

theorem keys_foldl_putNew :
    keys (items.foldl (fun known item => putNew known (name item) (content item)) []) =
      distinct (items.map name) := by
  induction items using List.reverseRecOn with
  | nil => rfl
  | append_singleton items item induction =>
      rw [List.foldl_append, List.foldl_cons, List.foldl_nil, putNew_eq, List.map_append,
        distinct_append, induction]
      by_cases known : name item ∈ items.map name
      · rw [if_pos (mem_distinct.mpr known), induction]
        simp [distinct, List.mem_map.mp known]
      · rw [if_neg (known ∘ mem_distinct.mp), keys, List.map_append, ← keys, induction]
        have kept : [name item].filter (· ∉ items.map name) = [name item] :=
          List.filter_eq_self.mpr (by simpa using known)
        simp only [List.map_cons, List.map_nil, distinct, List.filter_nil, kept]

/-- Under every key stands what came with it first. -/
theorem get?_foldl_putNew (key : String) :
    get? (items.foldl (fun known item => putNew known (name item) (content item)) [])
        key =
      (items.find? fun item => name item = key).map content := by
  induction items using List.reverseRecOn with
  | nil => rfl
  | append_singleton items item induction =>
      rw [List.foldl_append, List.foldl_cons, List.foldl_nil, putNew_eq, List.find?_append,
        Option.map_or, ← induction]
      split
      · rename_i known
        by_cases same : name item = key
        · subst same
          have present := get?_eq_none_iff.not.mpr (not_not.mpr known)
          rw [Option.or_of_isSome (Option.isSome_iff_ne_none.mpr present)]
        · simp [same]
      · rw [get?_append]
        by_cases same : name item = key <;> simp [get?, same]

end

/-! ## Values computed from their keys -/

/-- Some keys, each with a value that is computed from it. -/
def tabulate (keys : List String) (value : String → α) : Ledger α :=
  keys.map fun key => (key, value key)

variable {names : List String} {compute : String → α}

@[simp] theorem keys_tabulate : keys (tabulate names compute) = names := by
  simp [keys, tabulate, Function.comp_def]

@[simp] theorem values_tabulate :
    values (tabulate names compute) = names.map compute := by
  simp [values, tabulate, Function.comp_def]

theorem get?_tabulate (member : key ∈ names) :
    get? (tabulate names compute) key = some (compute key) := by
  induction names with
  | nil => cases member
  | cons name rest induction =>
      by_cases same : name = key
      · simp [tabulate, get?, same]
      · have inRest := (List.mem_cons.mp member).resolve_left (Ne.symm same)
        simpa [tabulate, get?, same] using induction inRest

/-- Values that are computed from their keys agree however often a key is written. -/
theorem get?_putAll_tabulate (ledger : Ledger α) (names : List String)
    (compute : String → α) (key : String) :
    get? (putAll ledger (tabulate names compute)) key =
      if key ∈ names then some (compute key) else get? ledger key := by
  induction names generalizing ledger with
  | nil => rfl
  | cons name rest induction =>
      have step : putAll ledger (tabulate (name :: rest) compute) =
          putAll (put ledger name (compute name)) (tabulate rest compute) := rfl
      rw [step, induction, get?_put]
      by_cases same : name = key
      · subst same
        simp
      · simp [same, Ne.symm same]

theorem eq_tabulate (nodup : (keys ledger).Nodup)
    (found : ∀ key ∈ keys ledger, get? ledger key = some (compute key)) :
    ledger = tabulate (keys ledger) compute := by
  rw [tabulate, keys, List.map_map]
  refine (List.map_id' ledger).symm.trans (List.map_congr_left ?_)
  intro entry member
  have held := get?_eq_some_of_mem nodup member
  rw [found entry.1 (List.mem_map.mpr ⟨entry, member, rfl⟩)] at held
  exact Prod.ext rfl (Option.some.inj held).symm

theorem put_tabulate (nodup : names.Nodup) (member : key ∈ names) :
    put (tabulate names compute) key value =
      tabulate names (Function.update compute key value) := by
  induction names with
  | nil => cases member
  | cons name rest induction =>
      obtain ⟨absent, restNodup⟩ := List.nodup_cons.mp nodup
      by_cases same : name = key
      · subst same
        have unchanged : ∀ other ∈ rest,
            Function.update compute name value other = compute other := by
          intro other otherMember
          apply Function.update_of_ne
          rintro rfl
          exact absent otherMember
        simp only [tabulate, List.map_cons, put, if_pos, Function.update_self]
        congr 1
        apply List.map_congr_left
        intro other otherMember
        rw [unchanged other otherMember]
      · have inRest := (List.mem_cons.mp member).resolve_left (Ne.symm same)
        have later := induction restNodup inRest
        simp only [tabulate] at later
        simp only [tabulate, List.map_cons, put, if_neg same, later,
          Function.update_of_ne same]

end StageGraph.Ledger
