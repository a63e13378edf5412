import Mathlib.Data.List.Basic
import StageGraph.Proofs.Catalog
import StageGraph.Proofs.Gate.Completion

/-!
# Setting back settles the fields

The gate sets fields back in one pass.  One pass is enough when a field that decides
about another one comes before it, when two fields of one key are never visible
together, and when every default fits its field: then no later step undoes an earlier
one.  The fields of all built-in kinds are of this sort.

What does not fit is set back after it has been put into words, and there is a value
without words: a list with a choice that is not offered and that has no text.  The pass
stops there.  `Gate.mend` sets back the same without asking for words.
-/

namespace StageGraph

namespace Field

/-! ## Checks that have an answer -/

/-- A bound is absent or a number that can be written. -/
def isWritableBound : Value → Bool
  | .null => true
  | bound => bound.asNumber?.any fun n => n.briefText.isOk

theorem exists_bound {bound : Value} (writable : isWritableBound bound = true) :
    ∃ declared, bound? bound = .ok declared ∧
      ∀ n, declared = some n → ∃ text, n.briefText = .ok text := by
  have written {n : Number} (isOk : n.briefText.isOk = true) :
      ∃ text, n.briefText = .ok text := by
    cases result : n.briefText with
    | error fault => simp [result, Except.isOk, Except.toBool] at isOk
    | ok text => exact ⟨text, rfl⟩
  unfold bound?
  split
  · exact ⟨none, rfl, by simp⟩
  · rename_i bound notNull
    unfold isWritableBound at writable
    split at writable
    · simp at notNull
    · split
      · rename_i n spelled
        rw [spelled] at writable
        refine ⟨some n, rfl, ?_⟩
        rintro _ ⟨⟩
        exact written writable
      · rename_i noNumber
        rw [noNumber] at writable
        cases writable

/-- A number is judged by writable bounds, and the wording of the judgment exists. -/
theorem exists_outside {field : Field} (lower : isWritableBound field.minimum = true)
    (upper : isWritableBound field.maximum = true) (n : Number) :
    ∃ misfit?, field.outside? n = .ok misfit? ∧
      ∀ misfit, misfit? = some misfit → ∃ wording, misfit.wording = .ok wording := by
  obtain ⟨least, leastDeclared, leastWritten⟩ := exists_bound lower
  obtain ⟨greatest, greatestDeclared, greatestWritten⟩ := exists_bound upper
  unfold outside?
  rw [leastDeclared, greatestDeclared]
  cases below : least.filter n.less with
  | some minimum =>
      obtain ⟨text, written⟩ := leastWritten minimum (Option.eq_some_of_filter_eq_some below)
      refine ⟨some (.below minimum), by simp [below, bind, Except.bind, pure, Except.pure], ?_⟩
      rintro _ ⟨⟩
      exact ⟨_, by rw [Misfit.wording, written]; rfl⟩
  | none =>
      refine ⟨(greatest.filter fun maximum => maximum.less n).map .above,
        by simp [below, bind, Except.bind, pure, Except.pure], ?_⟩
      intro misfit outside
      obtain ⟨maximum, above, rfl⟩ := Option.map_eq_some_iff.mp outside
      obtain ⟨text, written⟩ := greatestWritten maximum (Option.eq_some_of_filter_eq_some above)
      exact ⟨_, by rw [Misfit.wording, written]; rfl⟩

/-- Whether a list holds a choice that is not offered and that has no text to name it by. -/
def isOverlong (field : Field) (value : Value) : Bool :=
  match field.kind, value with
  | .multiselect, .list items =>
    items.any fun item => !item.isAmong field.offered && !item.hasText
  | _, _ => false

/-- Whether a value does not fit, with words for it or without. -/
def misfits (field : Field) (value : Value) : Bool :=
  match field.misfit? value with
  | .ok misfit? => misfit?.isSome
  | .error _ => false

/-- All choices have texts and all bounds can be written. -/
def isWritable (field : Field) : Bool :=
  isWritableBound field.minimum && isWritableBound field.maximum &&
    field.offered.all Value.hasText

theorem exists_wording_of_named {values : List Value} (named : values.all Value.hasText = true) :
    (∃ wording, (Misfit.notOffered values).wording = .ok wording) ∧
      ∃ wording, (Misfit.unsupported values).wording = .ok wording := by
  have listed : ∃ text, Misfit.listing values = .ok text :=
    ⟨_, if_pos named⟩
  obtain ⟨text, listed⟩ := listed
  simp [Misfit.wording, listed, Except.map]

theorem exists_misfit {field : Field} (writable : field.isWritable = true) {value : Value}
    (worded : field.isOverlong value = false) :
    ∃ misfit?, field.misfit? value = .ok misfit? ∧
      ∀ misfit, misfit? = some misfit → ∃ wording, misfit.wording = .ok wording := by
  obtain ⟨bounded, offered⟩ := Bool.and_eq_true_iff.mp writable
  obtain ⟨lower, upper⟩ := Bool.and_eq_true_iff.mp bounded
  unfold misfit?
  split
  · exact ⟨_, rfl, by grind [Misfit.wording]⟩
  · -- Only bounds and choices are named; all other misfits have their words at once.
    cases isKind : field.kind with
    | number | slider =>
        cases value with
        | number n => exact exists_outside lower upper n
        | _ => exact ⟨_, rfl, by grind [Misfit.wording]⟩
    | select =>
        refine ⟨_, rfl, ?_⟩
        split
        · simp
        · rintro _ ⟨⟩
          exact (exists_wording_of_named offered).1
    | multiselect =>
        cases value with
        | list items =>
            refine ⟨_, rfl, ?_⟩
            split
            · simp
            · rintro _ ⟨⟩
              refine (exists_wording_of_named ?_).2
              simpa [isOverlong, isKind, or_iff_not_imp_left] using worded
        | _ => exact ⟨_, rfl, by grind [Misfit.wording]⟩
    | _ => cases value <;> exact ⟨_, rfl, by grind [Misfit.wording]⟩

/-- Every value is judged in words unless it holds a choice without a text. -/
theorem exists_check {field : Field} (writable : field.isWritable = true) {value : Value}
    (worded : field.isOverlong value = false) :
    ∃ issue, field.check value = .ok issue ∧ issue.isSome = field.misfits value := by
  obtain ⟨misfit?, judged, hasWording⟩ := exists_misfit writable worded
  unfold check misfits
  rw [judged]
  cases misfit? with
  | none => exact ⟨none, rfl, rfl⟩
  | some misfit =>
      obtain ⟨wording, written⟩ := hasWording misfit rfl
      refine ⟨some (field.label.display ++ " " ++ wording), ?_, rfl⟩
      simp [Misfit.message, written, bind, Except.bind, pure, Except.pure, Except.map,
        Except.mapError]

theorem exists_misfit_of_isOverlong {field : Field} {value : Value}
    (overlong : field.isOverlong value = true) :
    ∃ unknown, field.misfit? value = .ok (some (.unsupported unknown)) ∧
      unknown.all Value.hasText = false := by
  unfold isOverlong at overlong
  split at overlong
  · rename_i items isMultiselect
    obtain ⟨item, member, unnamed⟩ := List.any_eq_true.mp overlong
    obtain ⟨isUnknown, textless⟩ := Bool.and_eq_true_iff.mp unnamed
    have listed : item ∈ items.filter fun item => !item.isAmong field.offered :=
      List.mem_filter.mpr ⟨member, isUnknown⟩
    refine ⟨items.filter fun item => !item.isAmong field.offered, ?_, ?_⟩
    · have isSet : (Value.list items).isUnset = false := by
        cases items with
        | nil => cases member
        | cons _ _ => rfl
      have unknown : (items.filter fun item => !item.isAmong field.offered).isEmpty = false :=
        List.isEmpty_eq_false_iff_exists_mem.mpr ⟨item, listed⟩
      simp [misfit?, isMultiselect, isSet, unknown]
    · apply List.all_eq_false.mpr
      exact ⟨item, listed, by simpa using textless⟩
  · cases overlong

/-- There are no words for a choice without a text. -/
theorem check_of_isOverlong {field : Field} {value : Value}
    (overlong : field.isOverlong value = true) : field.check value = .error .outOfRange := by
  obtain ⟨unknown, judged, textless⟩ := exists_misfit_of_isOverlong overlong
  unfold check
  rw [judged]
  simp [Misfit.message, Misfit.wording, Misfit.listing, textless, bind, Except.bind, Except.map,
    Except.mapError]

theorem misfits_of_isOverlong {field : Field} {value : Value}
    (overlong : field.isOverlong value = true) : field.misfits value = true := by
  obtain ⟨unknown, judged, _⟩ := exists_misfit_of_isOverlong overlong
  rw [misfits, judged]
  rfl

/-! ## Fields that can be set back in their order -/

/-- Whether the field is visible can be told and is not decided by its own value, values are
judged in words as far as there are any, and the default fits. -/
structure Sound (field : Field) : Prop where
  testable : ∀ config, field.isTestable config = true
  undriven : field.driver? ≠ some field.key
  judges : ∀ value, field.isOverlong value = false →
    ∃ issue, field.check value = .ok issue ∧ issue.isSome = field.misfits value
  fits : field.check field.initial = .ok none

theorem Sound.check_eq_none {field : Field} (sound : field.Sound) {value : Value}
    (fits : field.misfits value = false) : field.check value = .ok none := by
  have worded : field.isOverlong value = false := by
    apply Bool.eq_false_iff.mpr
    intro overlong
    rw [misfits_of_isOverlong overlong] at fits
    cases fits
  obtain ⟨issue, judged, none⟩ := sound.judges value worded
  rw [fits] at none
  rw [judged, Option.isSome_eq_false_iff.mp none |> Option.isNone_iff_eq_none.mp]

/-- A field is judged unless it is visible and holds a choice without a text. -/
theorem Sound.eq_outOfRange_of_judge {field : Field} (sound : field.Sound) {config : Config}
    {fault : Unjudged} (fails : field.judge config = .error fault) :
    fault = .outOfRange := by
  cases visible : field.isVisible config with
  | false =>
      rw [judge_of_hidden (sound.testable config) visible] at fails
      cases fails
  | true =>
      rw [judge_of_isVisible visible] at fails
      cases overlong : field.isOverlong (Config.value config field.key) with
      | true =>
          rw [check_of_isOverlong overlong] at fails
          exact (Except.error.inj fails).symm
      | false =>
          obtain ⟨issue, judged, _⟩ := sound.judges _ overlong
          rw [judged] at fails
          cases fails

/-- A later field leaves an earlier one as it is judged: it does not decide whether the
earlier one is visible, and if they share a key, they are never visible together. -/
structure Spares (later earlier : Field) : Prop where
  undriven : earlier.driver? ≠ some later.key
  apart : later.key = earlier.key → ∀ config,
    earlier.isVisible config = true → later.isVisible config = false

/-- Fields in whose order values may be set back. -/
structure Settles (fields : List Field) : Prop where
  sound : ∀ field ∈ fields, field.Sound
  spares : fields.Pairwise fun earlier later => later.Spares earlier

/-- What a configuration holds for a field fits, unless the field is hidden or touched. -/
def Settled (touched : String → Bool) (config : Config) (field : Field) : Prop :=
  touched field.key = false → field.isVisible config = true →
    field.check (Config.value config field.key) = .ok none

end Field

namespace Gate

variable {touched : String → Bool} {config next : Config} {field : Field} {fields : List Field}

/-- Set a visible field that is not touched and whose value does not fit back to its default,
whether there are words for it or not. -/
def mendField (touched : String → Bool) (config : Config) (field : Field) : Config :=
  if !touched field.key && field.isVisible config &&
      field.misfits (Config.value config field.key) then
    Ledger.put config field.key field.initial
  else config

/-- Set fields back in their order. -/
def mend (fields : List Field) (touched : String → Bool) (config : Config) : Config :=
  fields.foldl (mendField touched) config

/-- Whether there are words for what a field is asked about. -/
def isWorded (touched : String → Bool) (config : Config) (field : Field) : Bool :=
  touched field.key || !field.isVisible config ||
    !field.isOverlong (Config.value config field.key)

theorem mend_append (before after : List Field) (touched : String → Bool) (config : Config) :
    mend (before ++ after) touched config = mend after touched (mend before touched config) :=
  List.foldl_append

theorem mendField_cases (touched : String → Bool) (config : Config) (field : Field) :
    mendField touched config field = config ∨
      (touched field.key = false ∧ field.isVisible config = true ∧
        mendField touched config field = Ledger.put config field.key field.initial) := by
  unfold mendField
  split
  · rename_i reset
    simp only [Bool.and_eq_true, Bool.not_eq_true'] at reset
    exact .inr ⟨reset.1.1, reset.1.2, rfl⟩
  · exact .inl rfl

/-- A field is set back as far as there are words for it. -/
theorem resetField_eq (sound : field.Sound) (config : Config) :
    resetField touched config field =
      if isWorded touched config field then .ok (mendField touched config field)
      else .error .outOfRange := by
  unfold resetField isWorded mendField
  cases isTouched : touched field.key with
  | true => simp
  | false =>
      cases visible : field.isVisible config with
      | false => simp [Field.judge_of_hidden (sound.testable config) visible, Except.map]
      | true =>
          rw [Field.judge_of_isVisible visible]
          cases overlong : field.isOverlong (Config.value config field.key) with
          | true => simp [Field.check_of_isOverlong overlong, Except.map]
          | false =>
              obtain ⟨issue, judged, complains⟩ := sound.judges _ overlong
              simp [judged, complains, Except.map]

/-! ## What setting back leaves -/

/-- A field keeps its visibility while no field is set back that decides about it. -/
theorem isVisible_mend (undriven : ∀ other ∈ fields, field.driver? ≠ some other.key)
    (touched : String → Bool) (config : Config) :
    field.isVisible (mend fields touched config) = field.isVisible config := by
  refine List.foldlRecOn fields _ (motive := fun next =>
    field.isVisible next = field.isVisible config) rfl ?_
  intro next same other member
  rcases mendField_cases touched next other with kept | ⟨_, _, reset⟩
  · rw [kept, same]
  · rw [reset, Field.isVisible_put (undriven other member), same]

/-- A value that is touched stays. -/
theorem value_mend_of_touched {key : String} (isTouched : touched key = true)
    (fields : List Field) (config : Config) :
    Config.value (mend fields touched config) key = Config.value config key := by
  refine List.foldlRecOn fields _ (motive := fun next =>
    Config.value next key = Config.value config key) rfl ?_
  intro next same other _
  rcases mendField_cases touched next other with kept | ⟨untouched, _, reset⟩
  · rw [kept, same]
  · have different : other.key ≠ key := by
      rintro rfl
      rw [isTouched] at untouched
      cases untouched
    rw [reset, Config.value_put, if_neg different, same]

/-- A value stays unless a field of its key is visible, if the key decides about none of the
fields. -/
theorem value_mend_or_isVisible {key : String}
    (apart : fields.Pairwise fun earlier later => later.Spares earlier)
    (undriven : ∀ field ∈ fields, field.driver? ≠ some key)
    (touched : String → Bool) (config : Config) :
    Config.value (mend fields touched config) key = Config.value config key ∨
      ∃ field ∈ fields, field.key = key ∧ field.isVisible (mend fields touched config) = true := by
  induction fields using List.reverseRecOn with
  | nil => exact .inl rfl
  | append_singleton fields last induction =>
      obtain ⟨before, _, across⟩ := List.pairwise_append.mp apart
      have lastUndriven := undriven last (List.mem_append_right _ List.mem_cons_self)
      rw [mend_append]
      have step : mend [last] touched (mend fields touched config) =
          mendField touched (mend fields touched config) last := rfl
      rcases mendField_cases touched (mend fields touched config) last with
        kept | ⟨_, visible, reset⟩
      · rw [step, kept]
        refine (induction before fun field member =>
          undriven field (List.mem_append_left _ member)).imp_right ?_
        rintro ⟨field, member, shown⟩
        exact ⟨field, List.mem_append_left _ member, shown⟩
      · by_cases same : last.key = key
        · right
          refine ⟨last, List.mem_append_right _ List.mem_cons_self, same, ?_⟩
          rw [step, reset, Field.isVisible_put (same ▸ lastUndriven), visible]
        · rcases induction before fun field member =>
            undriven field (List.mem_append_left _ member) with
            kept | ⟨field, member, hasKey, shown⟩
          · left
            rw [step, reset, Config.value_put, if_neg same, kept]
          · right
            refine ⟨field, List.mem_append_left _ member, hasKey, ?_⟩
            have spares := across field member last List.mem_cons_self
            rw [step, reset, Field.isVisible_put spares.undriven, shown]

/-- A field that is visible at its turn is visible in the end, and it is judged by the value
that it had at the beginning. -/
theorem turn_of_settles {before after : List Field}
    (settles : Field.Settles (before ++ field :: after)) (touched : String → Bool)
    (config : Config) :
    field.isVisible (mend (before ++ field :: after) touched config) =
        field.isVisible (mend before touched config) ∧
      (field.isVisible (mend before touched config) = true →
        Config.value (mend before touched config) field.key = Config.value config field.key) := by
  obtain ⟨apart, later, across⟩ := List.pairwise_append.mp settles.spares
  have sparesLater := (List.pairwise_cons.mp later).1
  have sound := settles.sound field (List.mem_append_right _ List.mem_cons_self)
  constructor
  · rw [mend_append]
    refine isVisible_mend (fun other member => ?_) touched _
    rcases List.mem_cons.mp member with rfl | inRest
    · exact sound.undriven
    · exact (sparesLater other inRest).undriven
  · intro visible
    have spared := fun other member => across other member field List.mem_cons_self
    rcases value_mend_or_isVisible apart (fun other member => (spared other member).undriven)
      touched config with kept | ⟨other, member, same, shown⟩
    · exact kept
    · have hidden := (spared other member).apart same.symm _ shown
      rw [visible] at hidden
      cases hidden

/-- After its own step a field is settled. -/
theorem settled_mendField (sound : field.Sound) (config : Config) :
    field.Settled touched (mendField touched config field) := by
  intro untouched visible
  unfold mendField at visible ⊢
  split
  · rw [Config.value_put, if_pos rfl]
    exact sound.fits
  · rename_i kept
    rw [if_neg kept] at visible
    apply sound.check_eq_none
    simpa [untouched, visible] using kept

/-- The step of a later field leaves an earlier one settled. -/
theorem Settled.mendField {earlier later : Field} (spares : later.Spares earlier)
    (settled : earlier.Settled touched config) :
    earlier.Settled touched (mendField touched config later) := by
  rcases mendField_cases touched config later with kept | ⟨_, laterVisible, reset⟩
  · rwa [kept]
  · rw [reset]
    intro untouched visible
    rw [Field.isVisible_put spares.undriven] at visible
    have different : later.key ≠ earlier.key := by
      intro shared
      have hidden := spares.apart shared config visible
      rw [hidden] at laterVisible
      cases laterVisible
    rw [Config.value_put, if_neg different]
    exact settled untouched visible

/-- One pass settles all fields. -/
theorem settled_mend (settles : Field.Settles fields) (touched : String → Bool)
    (config : Config) : ∀ field ∈ fields, field.Settled touched (mend fields touched config) := by
  induction fields using List.reverseRecOn with
  | nil => simp
  | append_singleton fields last induction =>
      obtain ⟨before, _, across⟩ := List.pairwise_append.mp settles.spares
      have settlesBefore : Field.Settles fields :=
        ⟨fun field member => settles.sound field (List.mem_append_left _ member), before⟩
      rw [mend_append]
      intro field member
      rcases List.mem_append.mp member with earlier | isLast
      · exact Settled.mendField (across field earlier last List.mem_cons_self)
          (induction settlesBefore field earlier)
      · obtain rfl := List.mem_singleton.mp isLast
        exact settled_mendField (settles.sound field member) _

/-! ## Where words are missing -/

/-- Where there are words for all that is visible and not touched, fields are set back. -/
theorem resetStale_eq_mend (settles : Field.Settles fields)
    (worded : ∀ field ∈ fields, touched field.key = false →
      field.isVisible (mend fields touched config) = true →
      field.isOverlong (Config.value config field.key) = false) :
    resetStale fields touched config = .ok (mend fields touched config) := by
  refine Checked.foldlM_of_ready (fun field member state =>
    resetField_eq (settles.sound field member) state) ?_
  rintro before field after rfl
  obtain ⟨sameVisible, sameValue⟩ := turn_of_settles settles touched config
  show isWorded touched (mend before touched config) field = true
  unfold isWorded
  cases isTouched : touched field.key with
  | true => rfl
  | false =>
      cases visible : field.isVisible (mend before touched config) with
      | false => rfl
      | true =>
          have hasWords := worded field (List.mem_append_right _ List.mem_cons_self) isTouched
            (sameVisible.trans visible)
          simp [sameValue visible, hasWords]

/-- A visible field that is not touched and that there are no words for stops the pass. -/
theorem resetStale_of_isOverlong (settles : Field.Settles fields) (member : field ∈ fields)
    (untouched : touched field.key = false)
    (visible : field.isVisible (mend fields touched config) = true)
    (overlong : field.isOverlong (Config.value config field.key) = true) :
    resetStale fields touched config = .error .outOfRange := by
  obtain ⟨before, after, rfl⟩ := List.append_of_mem member
  obtain ⟨sameVisible, sameValue⟩ := turn_of_settles settles touched config
  rw [sameVisible] at visible
  refine Checked.foldlM_of_not_ready (fun other member state =>
    resetField_eq (settles.sound other member) state) ?_
  show isWorded touched (mend before touched config) field = false
  simp [isWorded, untouched, visible, sameValue visible, overlong]

end Gate

/-! ## The built-in fields -/

namespace Field

/-- Two conditions ask one key for different texts. -/
def excludes (condition other : Condition) : Bool :=
  match condition.key, condition.expected, other.key, other.expected with
  | .text key, .plain (.text content), .text otherKey, .plain (.text otherContent) =>
    key = otherKey && content ≠ otherContent
  | _, _, _, _ => false

theorem asText?_of_holds {key content : String} {config : Config}
    (holds : Condition.holds ⟨.text key, .plain (.text content)⟩ config = true) :
    (Config.value config key).asText? = some content :=
  -- The first part is that the condition can be tested.
  Value.agrees_text_iff.mp (show (true && (Config.value config key).agrees (.text content)) = true
    from holds)

theorem holds_eq_false_of_excludes {condition other : Condition} {config : Config}
    (excluded : excludes condition other = true) (holds : other.holds config = true) :
    condition.holds config = false := by
  obtain ⟨key, expected⟩ := condition
  obtain ⟨otherKey, otherExpected⟩ := other
  unfold excludes at excluded
  split at excluded
  · rename_i name content otherName otherContent isKey isContent isOtherKey isOtherContent
    obtain ⟨sameName, different⟩ : name = otherName ∧ content ≠ otherContent := by
      simpa using excluded
    cases isKey
    cases isContent
    cases isOtherKey
    cases isOtherContent
    subst sameName
    apply Bool.eq_false_iff.mpr
    intro alsoHolds
    have alsoHeld := asText?_of_holds alsoHolds
    rw [asText?_of_holds holds] at alsoHeld
    exact different (Option.some.inj alsoHeld).symm
  · cases excluded

/-- Whether a field is sound, as far as it can be computed. -/
def isSound (field : Field) : Bool :=
  field.isAlwaysTestable && field.driver? ≠ some field.key && field.isWritable &&
    match field.check field.initial with
    | .ok none => true
    | _ => false

theorem sound_of_isSound {field : Field} (computed : field.isSound = true) : field.Sound := by
  obtain ⟨rest, fits⟩ := Bool.and_eq_true_iff.mp computed
  obtain ⟨rest, writable⟩ := Bool.and_eq_true_iff.mp rest
  obtain ⟨testable, undriven⟩ := Bool.and_eq_true_iff.mp rest
  refine ⟨isTestable_of_isAlwaysTestable testable, of_decide_eq_true undriven,
    fun _ => exists_check writable, ?_⟩
  split at fits
  · assumption
  · cases fits

/-- Whether a later field spares an earlier one, as far as the texts of their conditions
tell. -/
def isSparing (later earlier : Field) : Bool :=
  earlier.driver? ≠ some later.key &&
    (later.key ≠ earlier.key ||
      match later.condition, earlier.condition with
      | some condition, some other => excludes condition other
      | _, _ => false)

theorem spares_of_isSparing {later earlier : Field} (computed : later.isSparing earlier = true) :
    later.Spares earlier := by
  obtain ⟨undriven, apart⟩ := Bool.and_eq_true_iff.mp computed
  refine ⟨of_decide_eq_true undriven, fun shared config visible => ?_⟩
  rcases (Bool.or_eq_true _ _).mp apart with different | excluded
  · exact absurd shared (of_decide_eq_true different)
  · split at excluded
    · rename_i condition other laterCondition earlierCondition
      rw [isVisible, earlierCondition] at visible
      rw [isVisible, laterCondition]
      exact holds_eq_false_of_excludes excluded visible
    · cases excluded

end Field

/-- The tables of fields are computed through: the defaults fit, and what decides comes
first. -/
theorem Catalog.settles_builtin : ∀ kind ∈ builtinKinds, Field.Settles kind.fields := by
  have sound : ∀ kind ∈ builtinKinds, ∀ field ∈ kind.fields, field.isSound = true := by
    decide +kernel
  have sparing : ∀ kind ∈ builtinKinds,
      kind.fields.Pairwise fun earlier later => later.isSparing earlier = true := by
    decide +kernel
  intro kind member
  exact ⟨fun field inKind => Field.sound_of_isSound (sound kind member field inKind),
    (sparing kind member).imp Field.spares_of_isSparing⟩

end StageGraph
