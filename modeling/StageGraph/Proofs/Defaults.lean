import StageGraph.Proofs.Gate.Branches

/-!
# Defaults judged by themselves

The defaults of a form are taken in two rounds.  In the first a field gives its default
when it comes up while its key is open and it is visible under the defaults so far; in
the second every key that is still open takes the default of its first field.  So every
key has a default, but visibility was judged on the way.  Where a judgment fails, because
a condition looks up a list or a record, there are no defaults at all.  What is known is never
taken back, hence the verdict on a field is final once its driver is known.  A key whose
default is not that of a visible field, although it has one, has a field on which the
verdict came too early.
-/

namespace StageGraph

namespace Field

variable {fields : List Field} {field other : Field} {known : Config} {key : String}

/-! ## Two rounds -/

/-- What holds while visible fields give their defaults to open keys holds after the first
round. -/
theorem fillVisible_induction {motive : Config → Prop} (start : motive known)
    (fill : ∀ field ∈ fields, ∀ config, motive config → field.key ∉ Ledger.keys config →
      field.isVisible config = true → motive (Ledger.put config field.key field.initial)) :
    motive (fillVisible fields known) := by
  refine List.foldlRecOn fields _ start ?_
  intro config holds field member
  split
  · exact holds
  · rename_i isOpen
    split
    · rename_i visible
      exact fill field member config holds (isOpen ∘ Ledger.has_eq_true_iff.mpr) visible
    · exact holds

theorem fillVisible_append (first second : List Field) (known : Config) :
    fillVisible (first ++ second) known = fillVisible second (fillVisible first known) :=
  List.foldl_append

/-- What is known stays as it is. -/
theorem get?_fillVisible (settled : key ∈ Ledger.keys known) (fields : List Field) :
    Ledger.get? (fillVisible fields known) key = Ledger.get? known key := by
  apply fillVisible_induction (motive := fun config =>
    Ledger.get? config key = Ledger.get? known key) rfl
  intro field _ config same isOpen _
  have different : field.key ≠ key := by
    rintro rfl
    have found := same.trans (Config.get?_eq_value settled)
    rw [Ledger.get?_eq_none_iff.mpr isOpen] at found
    cases found
  rw [Ledger.get?_put, if_neg different, same]

theorem mem_keys_fillVisible (settled : key ∈ Ledger.keys known) (fields : List Field) :
    key ∈ Ledger.keys (fillVisible fields known) := by
  apply fillVisible_induction (motive := fun config => key ∈ Ledger.keys config) settled
  intro field _ config taken _ _
  exact Ledger.mem_keys_put.mpr (.inr taken)

theorem fillVisible_singleton (field : Field) (known : Config) :
    fillVisible [field] known =
      if field.key ∉ Ledger.keys known ∧ field.isVisible known = true then
        Ledger.put known field.key field.initial
      else known := by
  simp only [← Ledger.has_eq_true_iff, fillVisible, List.foldl_cons, List.foldl_nil]
  cases Ledger.has known field.key <;> cases field.isVisible known <;> rfl

theorem mem_keys_fillVisible_singleton_iff :
    key ∈ Ledger.keys (fillVisible [field] known) ↔
      key ∈ Ledger.keys known ∨ (field.key = key ∧ field.isVisible known = true) := by
  rw [fillVisible_singleton]
  split
  · rename_i gives
    rw [Ledger.mem_keys_put, and_iff_left gives.2, or_comm, eq_comm]
  · rename_i idle
    refine (or_iff_left_of_imp ?_).symm
    rintro ⟨rfl, visible⟩
    by_contra isOpen
    exact idle ⟨isOpen, visible⟩

/-- The second round leaves what is known, and takes the first field of every other key. -/
theorem get?_fillOpen (fields : List Field) (known : Config) (key : String) :
    Ledger.get? (fillOpen fields known) key =
      (Ledger.get? known key).or ((fields.find? fun field => field.key = key).map initial) := by
  induction fields generalizing known with
  | nil => simp [fillOpen]
  | cons field rest induction =>
      have step : fillOpen (field :: rest) known =
          fillOpen rest (Ledger.putNew known field.key field.initial) := rfl
      rw [step, induction, Ledger.putNew_eq]
      by_cases same : field.key = key
      · subst same
        split
        · rename_i taken
          simp [Config.get?_eq_value taken]
        · rename_i isOpen
          simp [Ledger.get?_append, Ledger.get?_eq_none_iff.mpr isOpen, Ledger.get?]
      · split
        · simp [same]
        · simp [Ledger.get?_append, Ledger.get?, same]

theorem get?_defaults_of_mem {before : List Field}
    (settled : key ∈ Ledger.keys (fillVisible before [])) (after : List Field) :
    Ledger.get? (defaults (before ++ after)) key =
      Ledger.get? (fillVisible before []) key := by
  rw [defaults, get?_fillOpen, fillVisible_append, get?_fillVisible settled,
    Config.get?_eq_value settled]
  rfl

theorem mem_keys_defaults_iff :
    key ∈ Ledger.keys (defaults fields) ↔ ∃ field ∈ fields, field.key = key := by
  rw [defaults, mem_keys_fillOpen, or_iff_right_of_imp]
  intro taken
  obtain ⟨field, member, same, _⟩ :=
    TakesInitials.fillVisible fields key _ (Config.get?_eq_value taken)
  exact ⟨field, member, same⟩

/-! ## Verdicts -/

/-- The driver of the field has a default, but is not known yet when the field comes up. -/
def JudgedEarly (fields : List Field) (field : Field) : Prop :=
  ∃ known driver, ComesUp fields field known ∧ field.driver? = some driver ∧
    driver ∈ Ledger.keys (defaults fields) ∧ driver ∉ Ledger.keys known

theorem exists_comesUp (member : field ∈ fields) : ∃ known, ComesUp fields field known := by
  obtain ⟨before, after, split⟩ := List.append_of_mem member
  exact ⟨_, before, after, split, rfl⟩

namespace ComesUp

variable (comesUp : ComesUp fields field known)

include comesUp

theorem mem : field ∈ fields := by
  obtain ⟨before, after, rfl, _⟩ := comesUp
  exact List.mem_append_right _ List.mem_cons_self

theorem get?_defaults (settled : key ∈ Ledger.keys known) :
    Ledger.get? (defaults fields) key = Ledger.get? known key := by
  obtain ⟨before, after, rfl, rfl⟩ := comesUp
  exact get?_defaults_of_mem settled _

/-- The verdict on a field is final, unless it comes too early. -/
theorem isVisible_defaults (timely : ¬ JudgedEarly fields field) :
    field.isVisible (defaults fields) = field.isVisible known := by
  apply isVisible_congr
  intro driver drives
  unfold Config.value
  by_cases settled : driver ∈ Ledger.keys known
  · rw [comesUp.get?_defaults settled]
  · have undeclared : driver ∉ Ledger.keys (defaults fields) := fun declared =>
      timely ⟨known, driver, comesUp, drives, declared, settled⟩
    rw [Ledger.get?_eq_none_iff.mpr settled, Ledger.get?_eq_none_iff.mpr undeclared]

theorem mem_keys_fillVisible (visible : field.isVisible known = true) :
    field.key ∈ Ledger.keys (fillVisible fields []) := by
  obtain ⟨before, after, rfl, rfl⟩ := comesUp
  rw [fillVisible_append, ← List.singleton_append, fillVisible_append]
  exact Field.mem_keys_fillVisible
    (mem_keys_fillVisible_singleton_iff.mpr (.inr ⟨rfl, visible⟩)) after

end ComesUp

/-! ## Where a default comes from -/

/-- The field gives its key the default: when it comes up, or as the first field of a key that
the first round leaves open. -/
inductive Provides (fields : List Field) (field : Field) : Prop where
  | inTurn {known : Config} (comesUp : ComesUp fields field known)
      (isOpen : field.key ∉ Ledger.keys known) (visible : field.isVisible known = true)
  | inReserve (first : fields.find? (fun other => other.key = field.key) = some field)
      (isOpen : field.key ∉ Ledger.keys (fillVisible fields []))

theorem Provides.mem (provides : Provides fields field) : field ∈ fields := by
  cases provides with
  | inTurn comesUp => exact comesUp.mem
  | inReserve first => exact List.mem_of_find?_eq_some first

theorem Provides.get?_defaults (provides : Provides fields field) :
    Ledger.get? (defaults fields) field.key = some field.initial := by
  cases provides with
  | inTurn comesUp isOpen visible =>
      obtain ⟨before, after, rfl, rfl⟩ := comesUp
      have given : fillVisible (before ++ [field]) [] =
          Ledger.put (fillVisible before []) field.key field.initial := by
        rw [fillVisible_append, fillVisible_singleton, if_pos ⟨isOpen, visible⟩]
      have settled : field.key ∈ Ledger.keys (fillVisible (before ++ [field]) []) :=
        given ▸ Ledger.mem_keys_put.mpr (.inl rfl)
      have kept := get?_defaults_of_mem settled after
      rw [List.append_assoc, List.singleton_append, given, Ledger.get?_put, if_pos rfl] at kept
      exact kept
  | inReserve first isOpen =>
      rw [defaults, get?_fillOpen, Ledger.get?_eq_none_iff.mpr isOpen, first]
      rfl

/-- A key that the first round settles has a field that was visible when it came up. -/
theorem exists_inTurn (settled : key ∈ Ledger.keys (fillVisible fields [])) :
    ∃ field known, field.key = key ∧ ComesUp fields field known ∧ key ∉ Ledger.keys known ∧
      field.isVisible known = true := by
  -- From the end, since a field is judged by what stands before it.
  induction fields using List.reverseRecOn with
  | nil => cases settled
  | append_singleton before field induction =>
      by_cases earlier : key ∈ Ledger.keys (fillVisible before [])
      · obtain ⟨other, known, same, ⟨left, right, split, prior⟩, rest⟩ := induction earlier
        exact ⟨other, known, same, ⟨left, right ++ [field], by simp [split], prior⟩, rest⟩
      · rw [fillVisible_append] at settled
        obtain ⟨same, visible⟩ :=
          (mem_keys_fillVisible_singleton_iff.mp settled).resolve_left earlier
        exact ⟨field, _, same, ⟨before, [], rfl, rfl⟩, earlier, visible⟩

/-- Every key is provided for by one of its fields. -/
theorem exists_provides (member : field ∈ fields) :
    ∃ other, Provides fields other ∧ other.key = field.key := by
  by_cases settled : field.key ∈ Ledger.keys (fillVisible fields [])
  · obtain ⟨other, known, same, comesUp, isOpen, visible⟩ := exists_inTurn settled
    exact ⟨other, .inTurn comesUp (same ▸ isOpen) visible, same⟩
  · have declared : (fields.find? fun other => other.key = field.key).isSome :=
      List.find?_isSome.mpr ⟨field, member, decide_eq_true rfl⟩
    obtain ⟨first, found⟩ := Option.isSome_iff_exists.mp declared
    have same : first.key = field.key := by
      simpa using List.find?_some found
    exact ⟨first, .inReserve (same ▸ found) (same ▸ settled), same⟩

/-! ## Consistent defaults -/

/-- Where a key has a field that is visible under the defaults themselves, its default is that
of such a field. -/
def SelfConsistent (fields : List Field) : Prop :=
  ∀ field ∈ fields, field.isVisible (defaults fields) = true →
    ∃ other ∈ fields, other.key = field.key ∧ other.isVisible (defaults fields) = true ∧
      Ledger.get? (defaults fields) field.key = some other.initial

/-- A key keeps the default of a field that the defaults themselves hide, while they show another
field of the key; one of the two was judged early, and what is shown has other defaults. -/
structure Strays (fields : List Field) (chosen shown : Field) : Prop where
  provides : Provides fields chosen
  hidden : chosen.isVisible (defaults fields) = false
  member : shown ∈ fields
  sameKey : shown.key = chosen.key
  visible : shown.isVisible (defaults fields) = true
  early : JudgedEarly fields chosen ∨ JudgedEarly fields shown
  others : ∀ field ∈ fields, field.key = chosen.key → field.isVisible (defaults fields) = true →
    field.initial ≠ chosen.initial

theorem Provides.judgedEarly {chosen shown : Field} (provides : Provides fields chosen)
    (hidden : chosen.isVisible (defaults fields) = false) (member : shown ∈ fields)
    (sameKey : shown.key = chosen.key) (visible : shown.isVisible (defaults fields) = true) :
    JudgedEarly fields chosen ∨ JudgedEarly fields shown := by
  by_contra neither
  obtain ⟨chosenTimely, shownTimely⟩ := not_or.mp neither
  -- Both verdicts still stand.  So the chosen field did not come first in its turn, and the
  -- shown one left no key to the second round.
  cases provides with
  | inTurn comesUp _ wasVisible =>
      rw [← comesUp.isVisible_defaults chosenTimely, hidden] at wasVisible
      cases wasVisible
  | inReserve _ isOpen =>
      obtain ⟨known, comesUp⟩ := exists_comesUp member
      rw [comesUp.isVisible_defaults shownTimely] at visible
      exact isOpen (sameKey ▸ comesUp.mem_keys_fillVisible visible)

theorem SelfConsistent.not_strays (consistent : SelfConsistent fields) (chosen shown : Field) :
    ¬ Strays fields chosen shown := by
  intro strays
  obtain ⟨other, member, sameKey, visible, found⟩ :=
    consistent shown strays.member strays.visible
  rw [strays.sameKey, strays.provides.get?_defaults] at found
  exact strays.others other member (sameKey.trans strays.sameKey) visible
    (Option.some.inj found).symm

theorem selfConsistent_of_not_strays (settled : ∀ chosen shown, ¬ Strays fields chosen shown) :
    SelfConsistent fields := by
  intro field member visible
  obtain ⟨chosen, provides, same⟩ := exists_provides member
  by_contra inconsistent
  have others : ∀ other ∈ fields, other.key = chosen.key →
      other.isVisible (defaults fields) = true → other.initial ≠ chosen.initial := by
    intro other otherMember sameKey otherVisible sameInitial
    refine inconsistent ⟨other, otherMember, sameKey.trans same, otherVisible, ?_⟩
    rw [← same, provides.get?_defaults, sameInitial]
  have hidden : chosen.isVisible (defaults fields) = false :=
    Bool.eq_false_iff.mpr fun shown => others chosen provides.mem rfl shown rfl
  have early := provides.judgedEarly hidden member same.symm visible
  exact settled chosen field ⟨provides, hidden, member, same.symm, visible, early, others⟩

/-- There are no defaults where a field stumbles.  Otherwise every key of a field has a default,
and no other key, and the defaults are consistent exactly when no key strays by an early
verdict. -/
theorem selfConsistent_iff (fields : List Field) :
    (takeDefaults fields = .error {} ↔ ∃ field, Stumbles fields field) ∧
      ((∀ field, ¬ Stumbles fields field) →
        takeDefaults fields = .ok (defaults fields) ∧
        (∀ key, key ∈ Ledger.keys (defaults fields) ↔ ∃ field ∈ fields, field.key = key) ∧
        (SelfConsistent fields ↔ ∀ chosen shown, ¬ Strays fields chosen shown)) := by
  refine ⟨⟨fun fails => ?_, fun ⟨_, stumbles⟩ => takeDefaults_of_stumbles stumbles⟩,
    fun steady => ⟨takeDefaults_of_steady steady, fun key => mem_keys_defaults_iff,
      SelfConsistent.not_strays, selfConsistent_of_not_strays⟩⟩
  by_contra steady
  rw [takeDefaults_of_steady (not_exists.mp steady)] at fails
  cases fails

def variant (mode initial : String) : Field :=
  { key := "value", label := "Value", kind := .text, initial := initial
    condition := some { key := "mode", expected := .plain mode } }

/-- Two variants of a value before the mode by which they are told apart. -/
def lateMode : List Field :=
  [variant "b" "for-b", variant "a" "for-a",
    { key := "mode", label := "Mode", kind := .text, initial := "a" }]

/-- A value for modes from a set, and a list for the mode. -/
def listedMode : List Field :=
  [{ key := "mode", label := "Mode", kind := .tags, initial := .list ["x"] },
    { key := "value", label := "Value", kind := .text
      condition := some { key := "mode", expected := .set ["a"] } }]

theorem lateMode_not_selfConsistent :
    takeDefaults lateMode = .ok [("mode", .text "a"), ("value", .text "for-b")] ∧
      defaults lateMode = [("mode", .text "a"), ("value", .text "for-b")] ∧
      ¬ SelfConsistent lateMode ∧ takeDefaults listedMode = .error {} := by
  have taken : defaults lateMode = [("mode", .text "a"), ("value", .text "for-b")] := rfl
  refine ⟨rfl, taken, ?_, rfl⟩
  intro consistent
  obtain ⟨other, member, sameKey, visible, found⟩ :=
    consistent (variant "a" "for-a") (by simp [lateMode]) rfl
  simp only [lateMode, List.mem_cons, List.not_mem_nil, or_false] at member
  rcases member with rfl | rfl | rfl
  · cases visible
  · rw [taken] at found
    simp [variant, Ledger.get?] at found
  · simp [variant] at sameKey

/-! ## Drivers that come first -/

/-- Whether every driver is known when its fields come up. -/
def isTimely (known : Config) : List Field → Bool
  | [] => true
  | field :: rest =>
    field.driver?.all (Ledger.has known) && isTimely (fillVisible [field] known) rest

theorem driver_known_of_isTimely {before after : List Field} {driver : String}
    (timely : isTimely known (before ++ field :: after) = true)
    (drives : field.driver? = some driver) :
    driver ∈ Ledger.keys (fillVisible before known) := by
  induction before generalizing known with
  | nil =>
      rw [List.nil_append, isTimely, drives] at timely
      exact Ledger.has_eq_true_iff.mp (Bool.and_eq_true_iff.mp timely).1
  | cons first before induction =>
      rw [List.cons_append, isTimely] at timely
      exact induction (Bool.and_eq_true_iff.mp timely).2

theorem selfConsistent_of_isTimely (timely : isTimely [] fields = true) :
    SelfConsistent fields := by
  have onTime : ∀ field, ¬ JudgedEarly fields field := by
    rintro field ⟨_, driver, ⟨before, after, rfl, rfl⟩, drives, _, unknown⟩
    exact unknown (driver_known_of_isTimely timely drives)
  apply selfConsistent_of_not_strays
  intro chosen shown strays
  exact strays.early.elim (onTime chosen) (onTime shown)

end Field

/-- The tables of fields are computed through: every driver comes before its fields. -/
theorem Catalog.selfConsistent_builtin :
    ∀ kind ∈ builtinKinds, Field.SelfConsistent kind.fields := by
  have table : ∀ kind ∈ builtinKinds, Field.isTimely [] kind.fields = true := by
    decide +kernel
  intro kind member
  exact Field.selfConsistent_of_isTimely (table kind member)

end StageGraph
