import StageGraph.Proofs.Json.Weights
import StageGraph.Proofs.Ledger
import StageGraph.Proofs.Reading
import StageGraph.Proofs.Text.Pieces
import StageGraph.Settings.Reader

/-!
# Lists among the settings

A list that is given may be one text with commas, and is then the trimmed pieces of the text.
In the environment the text of a list is read as a document first, so that it is refused
unless it is one, and what is read of it is never the pieces: they weigh as much as the text,
and what is read weighs less.
-/

namespace StageGraph

namespace Text

/-- The commas between the pieces weigh nothing. -/
theorem weight_splitAt_comma (cs : List Char) :
    ((splitAt ',' cs).map weight).sum = weight cs := by
  induction cs with
  | nil => rfl
  | cons c rest induction =>
      rw [splitAt_cons]
      split
      · rename_i comma
        have light : weight [c] = 0 := by
          rw [comma]
          decide
        rw [weight_cons, light, List.map_cons, List.sum_cons, induction, weight_nil]
      · obtain ⟨first, others, split⟩ := List.exists_cons_of_ne_nil (splitAt_ne_nil ',' rest)
        rw [split, List.map_cons, List.sum_cons] at induction
        rw [split, growFirst, List.map_cons, List.sum_cons, weight_cons, weight_cons c rest,
          ← induction, Nat.add_assoc]

end Text

namespace Settings

open Text (weight)

/-! ## The weight of a list -/

/-- What the texts of a list weigh together. -/
def textsWeight (texts : List String) : Nat :=
  (texts.map fun text => weight text.toList).sum

theorem textsWeight_commaList (text : String) :
    textsWeight (commaList text) = weight text.toList := by
  have trimmed (piece : List Char) :
      weight (Text.trimText (String.ofList piece)).toList = weight piece := by
    rw [Text.trimText, String.toList_ofList, Text.weight_trim, String.toList_ofList]
  have pieces : (commaList text).map (fun piece => weight piece.toList) =
      (Text.splitAt ',' text.toList).map weight := by
    simp only [commaList, Text.splitText, List.map_map]
    apply List.map_congr_left
    intro piece _
    rw [Function.comp_apply, Function.comp_apply, trimmed]
  rw [textsWeight, pieces, Text.weight_splitAt_comma]

/-- Names without commas come back trimmed from a text with commas between them. -/
theorem commaList_join {names : List String} (inhabited : names ≠ [])
    (commaFree : ∀ name ∈ names, ',' ∉ name.toList) :
    commaList (Text.join "," names) = names.map Text.trimText := by
  have comma : ",".toList = [','] := rfl
  have pieces : Text.splitAt ',' (List.intercalate [','] (names.map String.toList)) =
      names.map String.toList := by
    apply Text.splitAt_intercalate (by simpa using inhabited)
    intro piece member
    obtain ⟨name, nameMember, rfl⟩ := List.mem_map.mp member
    exact commaFree name nameMember
  rw [commaList, Text.splitText, Text.toList_join, comma, pieces]
  simp

theorem textsWeight_of_each {place : Nat} {values : List Value} {texts : List String}
    (done : Checked.each Checked.text place values = .ok texts) :
    textsWeight texts = (values.map Json.textWeight).sum := by
  induction values generalizing place texts with
  | nil =>
      cases done
      rfl
  | cons value values induction =>
      obtain ⟨⟨text, later⟩, parts, rfl⟩ := Checked.map_eq_ok done
      obtain ⟨head, tail⟩ := Checked.both_eq_ok_iff.mp parts
      have isText := Checked.text_eq_ok_iff.mp (Checked.under_eq_ok_iff.mp head)
      have same : weight text.toList = Json.textWeight value := by
        cases value <;> cases isText <;> rfl
      have rest := induction tail
      rw [textsWeight] at rest
      rw [textsWeight, List.map_cons, List.sum_cons, List.map_cons, List.sum_cons, same, rest]

/-- A list that is read weighs less than the value by its quotes or brackets. -/
theorem textsWeight_of_readList {value : Value} {texts : List String}
    (done : readList value = .ok texts) : textsWeight texts + 2 = Json.closedWeight value := by
  cases value with
  | text text =>
      cases done
      rw [textsWeight_commaList, Json.closedWeight]
  | constant c =>
      cases done
      rw [textsWeight_commaList, Json.closedWeight]
  | list items => rw [textsWeight_of_each done, Json.closedWeight]
  | null => cases done
  | bool truth => cases done
  | number number => cases done
  | record entries => cases done

/-! ## The two lists -/

/-- The settings whose values are lists of texts. -/
inductive ListSetting where
  | origins
  | hosts
  deriving DecidableEq, Repr

namespace ListSetting

def name : ListSetting → String
  | .origins => "CORS_ORIGINS"
  | .hosts => "ALLOWED_HOSTS"

/-- The list among the settings. -/
def value (setting : ListSetting) (settings : Settings) : List String :=
  match setting with
  | .origins => settings.access.origins
  | .hosts => settings.access.hosts

/-- The settings with another list. -/
def put (setting : ListSetting) (settings : Settings) (texts : List String) : Settings :=
  match setting with
  | .origins => { settings with access := { settings.access with origins := texts } }
  | .hosts => { settings with access := { settings.access with hosts := texts } }

variable (setting : ListSetting)

theorem name_mem_names : setting.name ∈ names := by
  cases setting <;> decide

theorem name_mem_listNames : setting.name ∈ listNames := by
  cases setting <;> decide

/-- No default weighs what the word for null weighs. -/
theorem textsWeight_defaults_ne (profile : Profile) :
    textsWeight (setting.value (defaults profile)) ≠ 4 := by
  cases setting <;> cases profile <;> decide

end ListSetting

/-! ## Reading by name -/

theorem of_supply {α β : Type} {part : Checked α} {whole : Checked (α → β)} {value : β}
    (done : Checked.supply part whole = .ok value) :
    ∃ make item, whole = .ok make ∧ part = .ok item ∧ make item = value := by
  obtain ⟨⟨make, item⟩, parts, same⟩ := Checked.map_eq_ok done
  obtain ⟨wholeDone, partDone⟩ := Checked.both_eq_ok_iff.mp parts
  exact ⟨make, item, wholeDone, partDone, same⟩

variable {entries given : Config} {profile : Profile} {settings : Settings}
  {environment : Ledger String} {setting : ListSetting}

theorem of_readAccess {default access : Access}
    (done : readAccess entries default = .ok access) :
    Checked.withDefault entries "CORS_ORIGINS" default.origins readList = .ok access.origins ∧
      Checked.withDefault entries "ALLOWED_HOSTS" default.hosts readList = .ok access.hosts := by
  obtain ⟨_, openapiUrl, toRedoc, _, rfl⟩ := of_supply done
  obtain ⟨_, redocUrl, toDocs, _, rfl⟩ := of_supply toRedoc
  obtain ⟨_, docsUrl, toFlag, _, rfl⟩ := of_supply toDocs
  obtain ⟨_, docsEnabled, toHosts, _, rfl⟩ := of_supply toFlag
  obtain ⟨_, hosts, toOrigins, hostsRead, rfl⟩ := of_supply toHosts
  obtain ⟨_, origins, start, originsRead, rfl⟩ := of_supply toOrigins
  cases start
  exact ⟨originsRead, hostsRead⟩

theorem withDefault_of_readEntries (done : readEntries entries profile = .ok settings)
    (setting : ListSetting) :
    Checked.withDefault entries setting.name (setting.value (defaults profile)) readList =
      .ok (setting.value settings) := by
  obtain ⟨_, extras, toStorage, _, rfl⟩ := of_supply done
  obtain ⟨_, storage, toLogging, _, rfl⟩ := of_supply toStorage
  obtain ⟨_, logging, toAccess, _, rfl⟩ := of_supply toLogging
  obtain ⟨_, access, toServer, accessRead, rfl⟩ := of_supply toAccess
  obtain ⟨_, server, toApplication, _, rfl⟩ := of_supply toServer
  obtain ⟨_, application, start, _, rfl⟩ := of_supply toApplication
  cases start
  obtain ⟨origins, hosts⟩ := of_readAccess accessRead
  cases setting with
  | origins => exact origins
  | hosts => exact hosts

/-- The list of a name is read from what stands under the name. -/
theorem readList_of_get? {held : Value} (found : Ledger.get? entries setting.name = some held)
    (done : readEntries entries profile = .ok settings) :
    readList held = .ok (setting.value settings) := by
  have read := withDefault_of_readEntries done setting
  rw [Checked.withDefault, found] at read
  exact Checked.under_eq_ok_iff.mp read

theorem value_of_not_mem (absent : Ledger.get? entries setting.name = none)
    (done : readEntries entries profile = .ok settings) :
    setting.value settings = setting.value (defaults profile) := by
  have read := withDefault_of_readEntries done setting
  rw [Checked.withDefault, absent] at read
  exact (Except.ok.inj read).symm

/-! ## The environment -/

/-- What the environment holds for a setting, read by its name. -/
def ambientPair? (environment : Ledger String) (name : String) :
    Except SettingsFault (Option (String × Value)) :=
  match Ledger.get? environment name with
  | none => return none
  | some text => do
    match ← environmentValue name text with
    | .null => return none
    | value => return some (name, value)

theorem ofEnvironment_eq (environment : Ledger String) :
    ofEnvironment environment = names.filterMapM (ambientPair? environment) :=
  rfl

section

variable {α ε : Type} {step : String → Except ε (Option (String × α))}
  {keys : List String}

/-- Every key was looked up, and the entries are those that were found. -/
theorem mem_of_filterMapM {ledger : Ledger α} (done : keys.filterMapM step = .ok ledger) :
    (∀ key ∈ keys, ∃ found, step key = .ok found) ∧
      ∀ entry, entry ∈ ledger ↔ ∃ key ∈ keys, step key = .ok (some entry) := by
  induction keys generalizing ledger with
  | nil =>
      cases done
      simp
  | cons first rest induction =>
      rw [List.filterMapM_cons] at done
      obtain ⟨found, foundFirst, done⟩ := Checked.bind_eq_ok done
      cases found with
      | none =>
          obtain ⟨looked, listed⟩ := induction done
          refine ⟨List.forall_mem_cons.mpr ⟨⟨_, foundFirst⟩, looked⟩, fun entry => ?_⟩
          simp [listed, foundFirst]
      | some entry =>
          obtain ⟨later, laterDone, same⟩ := Checked.bind_eq_ok done
          obtain rfl := Except.ok.inj same
          obtain ⟨looked, listed⟩ := induction laterDone
          refine ⟨List.forall_mem_cons.mpr ⟨⟨_, foundFirst⟩, looked⟩, fun other => ?_⟩
          simp [listed, foundFirst, eq_comm]

/-- Where entries are found under their own keys, under a key stands what was found for it. -/
theorem get?_of_filterMapM {ledger : Ledger α}
    (keyed : ∀ key entry, step key = .ok (some entry) → entry.1 = key)
    (done : keys.filterMapM step = .ok ledger) {key : String} (member : key ∈ keys) :
    ∃ found, step key = .ok found ∧ Ledger.get? ledger key = found.map Prod.snd := by
  obtain ⟨looked, listed⟩ := mem_of_filterMapM done
  obtain ⟨found, foundHere⟩ := looked key member
  refine ⟨found, foundHere, ?_⟩
  have only {held : α} (stands : Ledger.get? ledger key = some held) :
      found = some (key, held) := by
    obtain ⟨other, _, foundOther⟩ := (listed _).mp (Ledger.mem_of_get?_eq_some stands)
    obtain rfl : key = other := keyed other _ foundOther
    rw [foundOther] at foundHere
    exact (Except.ok.inj foundHere).symm
  cases held : Ledger.get? ledger key with
  | some value => rw [only held]; rfl
  | none =>
      cases found with
      | none => rfl
      | some entry =>
          have inLedger := (listed entry).mpr ⟨key, member, foundHere⟩
          have own : entry.1 ∈ Ledger.keys ledger := List.mem_map.mpr ⟨entry, inLedger, rfl⟩
          rw [keyed key entry foundHere] at own
          exact absurd own (Ledger.get?_eq_none_iff.mp held)

/-- Looking up fails where it fails for some key. -/
theorem exists_of_filterMapM_eq_error {fault : ε}
    (failed : keys.filterMapM step = .error fault) :
    ∃ key ∈ keys, step key = .error fault := by
  induction keys with
  | nil => cases failed
  | cons first rest induction =>
      rw [List.filterMapM_cons] at failed
      cases found : step first with
      | error other =>
          rw [found] at failed
          cases failed
          exact ⟨first, List.mem_cons_self, found⟩
      | ok entry =>
          have restFailed : rest.filterMapM step = .error fault := by
            rw [found] at failed
            cases entry with
            | none => exact failed
            | some entry =>
                cases later : rest.filterMapM step with
                | error other =>
                    rw [later] at failed
                    cases failed
                    rfl
                | ok ledger =>
                    rw [later] at failed
                    cases failed
          obtain ⟨key, member, keyFailed⟩ := induction restFailed
          exact ⟨key, List.mem_cons_of_mem _ member, keyFailed⟩

end

theorem keyed_ambientPair? (name : String) (entry : String × Value)
    (found : ambientPair? environment name = .ok (some entry)) : entry.1 = name := by
  unfold ambientPair? at found
  split at found
  · cases found
  · obtain ⟨value, _, found⟩ := Checked.bind_eq_ok found
    split at found
    · cases found
    · cases found
      rfl

/-- The value of a list is what its text is read as. -/
theorem read_of_environmentValue {text : String} {value : Value}
    (done : environmentValue setting.name text = .ok value) :
    Json.read text .usual = .ok value := by
  rw [environmentValue, if_pos (List.contains_iff_mem.mpr setting.name_mem_listNames)] at done
  split at done
  · rename_i read
    rw [read, Except.ok.inj done]
  · cases done
  · cases done

/-- The fault is that the text of a list in the environment is no document. -/
def IsRefusal (fault : SettingsFault) : Prop :=
  ∃ name ∈ listNames, fault = .unparsable name ∨ fault = .tooDeep name

theorem isRefusal_of_environmentValue {name text : String} {fault : SettingsFault}
    (failed : environmentValue name text = .error fault) : IsRefusal fault := by
  unfold environmentValue at failed
  split at failed
  · rename_i listed
    have member := List.contains_iff_mem.mp listed
    split at failed
    · cases failed
    · cases failed
      exact ⟨name, member, .inr rfl⟩
    · cases failed
      exact ⟨name, member, .inl rfl⟩
  · cases failed

/-- The environment fails only with the text of a list. -/
theorem isRefusal_of_ofEnvironment {fault : SettingsFault}
    (failed : ofEnvironment environment = .error fault) : IsRefusal fault := by
  rw [ofEnvironment_eq] at failed
  obtain ⟨name, _, failed⟩ := exists_of_filterMapM_eq_error failed
  unfold ambientPair? at failed
  split at failed
  · cases failed
  · rename_i text _
    cases held : environmentValue name text with
    | error other =>
        rw [held] at failed
        cases failed
        exact isRefusal_of_environmentValue held
    | ok value =>
        rw [held] at failed
        cases value <;> cases failed

/-- A list that the environment holds is a document there; null counts as not set. -/
theorem of_ofEnvironment {ambient : Config} {text : String}
    (held : Ledger.get? environment setting.name = some text)
    (done : ofEnvironment environment = .ok ambient) :
    (Json.read text .usual = .ok .null ∧ Ledger.get? ambient setting.name = none) ∨
      ∃ value, Json.read text .usual = .ok value ∧
        Ledger.get? ambient setting.name = some value := by
  rw [ofEnvironment_eq] at done
  obtain ⟨found, foundHere, stands⟩ :=
    get?_of_filterMapM keyed_ambientPair? done setting.name_mem_names
  rw [ambientPair?, held] at foundHere
  obtain ⟨value, valueRead, foundHere⟩ := Checked.bind_eq_ok foundHere
  have read := read_of_environmentValue valueRead
  split at foundHere
  · cases foundHere
    exact .inl ⟨read, stands⟩
  · cases foundHere
    exact .inr ⟨value, read, stands⟩

/-! ## Given and in the environment -/

theorem of_read (done : read profile given environment = .ok settings) :
    ∃ ambient, ofEnvironment environment = .ok ambient ∧
      readEntries (Ledger.putAll ambient given) profile = .ok settings := by
  obtain ⟨ambient, ambientRead, entriesRead⟩ := Checked.bind_eq_ok done
  refine ⟨ambient, ambientRead, ?_⟩
  cases whole : readEntries (Ledger.putAll ambient given) profile with
  | error issues =>
      rw [whole] at entriesRead
      cases entriesRead
  | ok other =>
      rw [whole] at entriesRead
      cases entriesRead
      rfl

/-- A text that is given is divided at its commas, whatever else is given or set. -/
theorem value_of_given {text : String} (nodup : (Ledger.keys given).Nodup)
    (found : Ledger.get? given setting.name = some (.text text))
    (done : read profile given environment = .ok settings) :
    setting.value settings = commaList text := by
  obtain ⟨ambient, _, entriesRead⟩ := of_read done
  have stands : Ledger.get? (Ledger.putAll ambient given) setting.name = some (.text text) := by
    rw [Ledger.get?_putAll nodup, found, Option.some_or]
  have read := readList_of_get? stands entriesRead
  exact (Except.ok.inj read).symm

/-- A text in the environment is never divided at its commas. -/
theorem value_ne_commaList {text : String} (absent : setting.name ∉ Ledger.keys given)
    (held : Ledger.get? environment setting.name = some text)
    (done : read profile given environment = .ok settings) :
    setting.value settings ≠ commaList text := by
  obtain ⟨ambient, ambientRead, entriesRead⟩ := of_read done
  have shown := Ledger.get?_putAll_of_not_mem absent ambient
  intro same
  have heavy : textsWeight (setting.value settings) = weight text.toList := by
    rw [same, textsWeight_commaList]
  rcases of_ofEnvironment held ambientRead with ⟨null, unset⟩ | ⟨value, valueRead, stands⟩
  · -- Nothing is set, and the default weighs something else than the word for null.
    have default := value_of_not_mem (shown.trans unset) entriesRead
    rw [default, Json.weight_of_read_null null] at heavy
    exact setting.textsWeight_defaults_ne profile heavy
  · have light := Json.closedWeight_le_of_read valueRead
    have read := textsWeight_of_readList (readList_of_get? (shown.trans stands) entriesRead)
    omega

/-- How names without commas fare as one text: given, they come back trimmed; in the
environment, never. -/
structure OnlyGiven (setting : ListSetting) (profile : Profile) (names : List String) : Prop where
  /-- The text by itself is enough for settings, which are the defaults but for the list. -/
  made : read profile [(setting.name, .text (Text.join "," names))] [] =
    .ok (setting.put (defaults profile) (names.map Text.trimText))
  given : ∀ given environment settings, (Ledger.keys given).Nodup →
    read profile (Ledger.put given setting.name (.text (Text.join "," names))) environment =
      .ok settings →
    setting.value settings = names.map Text.trimText
  /-- Unless the text is a document, there are no settings. -/
  refused : ∀ given environment, (∀ value, Json.read (Text.join "," names) .usual ≠ .ok value) →
    ∃ fault, IsRefusal fault ∧
      read profile given (Ledger.put environment setting.name (Text.join "," names)) =
        .error fault
  /-- And where there are settings, they hold another list. -/
  differs : ∀ given environment settings, setting.name ∉ Ledger.keys given →
    read profile given (Ledger.put environment setting.name (Text.join "," names)) =
      .ok settings →
    setting.value settings ≠ names.map Text.trimText

theorem read_given (setting : ListSetting) (profile : Profile) (text : String) :
    read profile [(setting.name, .text text)] [] =
      .ok (setting.put (defaults profile) (commaList text)) := by
  cases setting <;> cases profile <;> rfl

/-- Names with commas between them are a list only where they are given. -/
theorem onlyGiven {names : List String} (inhabited : names ≠ [])
    (commaFree : ∀ name ∈ names, ',' ∉ name.toList) (setting : ListSetting)
    (profile : Profile) : OnlyGiven setting profile names := by
  have divided := commaList_join inhabited commaFree
  have held (environment : Ledger String) (text : String) :
      Ledger.get? (Ledger.put environment setting.name text) setting.name = some text := by
    rw [Ledger.get?_put, if_pos rfl]
  constructor
  · rw [read_given, divided]
  · intro given environment settings nodup done
    have found : Ledger.get? (Ledger.put given setting.name
        (Value.text (Text.join "," names))) setting.name =
        some (.text (Text.join "," names)) := by
      rw [Ledger.get?_put, if_pos rfl]
    rw [value_of_given (Ledger.nodup_keys_put nodup _ _) found done, divided]
  · intro given environment notDocument
    cases ambientRead : ofEnvironment
        (Ledger.put environment setting.name (Text.join "," names)) with
    | error fault =>
        refine ⟨fault, isRefusal_of_ofEnvironment ambientRead, ?_⟩
        rw [read, ambientRead]
        rfl
    | ok ambient =>
        rcases of_ofEnvironment (held environment _) ambientRead with
          ⟨null, _⟩ | ⟨value, valueRead, _⟩
        · exact absurd null (notDocument _)
        · exact absurd valueRead (notDocument _)
  · intro given environment settings absent done
    rw [← divided]
    exact value_ne_commaList absent (held environment _) done

/-- Names that together are the document of a text, and come back trimmed only when given. -/
theorem onlyGiven_quoted :
    ["\"a", " b\""] ≠ [] ∧ (∀ name ∈ ["\"a", " b\""], ',' ∉ name.toList) ∧
      OnlyGiven .hosts .base ["\"a", " b\""] := by
  have inhabited : ["\"a", " b\""] ≠ [] := by decide
  have commaFree : ∀ name ∈ ["\"a", " b\""], ',' ∉ name.toList := by decide
  exact ⟨inhabited, commaFree, onlyGiven inhabited commaFree .hosts .base⟩

/-- Two plain host names are refused in the environment, and are a list when given. -/
theorem twoHosts_refused :
    (∃ fault, read .base [] [("ALLOWED_HOSTS", Text.join "," ["a.test", "b.test"])] =
      .error fault) ∧
    ∃ settings, read .base
        [("ALLOWED_HOSTS", .text (Text.join "," ["a.test", "b.test"]))] [] = .ok settings ∧
      settings.access.hosts = ["a.test", "b.test"] := by
  refine ⟨⟨.unparsable "ALLOWED_HOSTS", ?_⟩, _, rfl, ?_⟩
  · rfl
  · decide

end Settings

end StageGraph
