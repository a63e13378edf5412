import StageGraph.Proofs.Json.Numerals
import StageGraph.Proofs.Text.Quoted

/-!
# What documents give back

The document of a value may not be read at all, when it nests too deep or a number
in it is too long.  Whatever is read of it has the shape of the value: texts, truth
values and null are the same, a constant is its text, a number is some number or
null, and lists and records are read part by part under the same names.  So the
texts in a document come through, whatever stands beside them.
-/

namespace StageGraph.Json

mutual

/-- The second value may be read of the document of the first. -/
def Echoes : Value → Value → Prop
  | .null, read => read = .null
  | .bool truth, read => read = .bool truth
  | .text text, read => read = .text text
  | .constant c, read => read = .text c.text
  | .number _, read => read = .null ∨ ∃ number, read = .number number
  | .list items, read => ∃ others, read = .list others ∧ EchoesItems items others
  | .record entries, read =>
    ∃ others, read = .record (Ledger.putAll [] others) ∧ EchoesEntries entries others

/-- The items may be read of a list with the other items. -/
def EchoesItems : List Value → List Value → Prop
  | [], others => others = []
  | item :: items, others =>
    ∃ read rest, others = read :: rest ∧ Echoes item read ∧ EchoesItems items rest

/-- The entries may be read of a record with the other entries. -/
def EchoesEntries : List (String × Value) → List (String × Value) → Prop
  | [], others => others = []
  | (name, value) :: entries, others =>
    ∃ read rest, others = (name, read) :: rest ∧ Echoes value read ∧ EchoesEntries entries rest

end

theorem solid_of_numerals {cs : List Char} (inhabited : cs ≠ [])
    (numerals : ∀ c ∈ cs, isNumeral c = true) : Solid cs := by
  obtain ⟨c, others, rfl⟩ := List.exists_cons_of_ne_nil inhabited
  have numeral := numerals c List.mem_cons_self
  refine ⟨c, others, rfl, not_isSpace_of_isNumeral numeral, ?_, ?_⟩
  · rintro rfl
    simp [isNumeral] at numeral
  · rintro rfl
    simp [isNumeral] at numeral

/-- The part of a document that holds a value begins with the value. -/
theorem solid_document (level : Nat) (value : Value) : Solid (documentAt level value).toList := by
  cases value with
  | null => exact solid_documentAt (by simp [Plain] : Plain 0 .null) level
  | bool truth => exact solid_documentAt (by simp [Plain] : Plain 0 (.bool truth)) level
  | text text => exact solid_documentAt (by simp [Plain] : Plain 0 (.text text)) level
  | constant c =>
      rw [documentAt]
      exact solid_textForm c.text
  | number number =>
      rw [documentAt]
      rcases numberForm_cases Layout.stored number with null | ⟨inhabited, numerals⟩
      · rw [null]
        exact ⟨_, _, rfl, by decide, by decide, by decide⟩
      · exact solid_of_numerals inhabited numerals
  | list items =>
      rw [documentAt]
      exact solid_block level (c := '[') rfl (by decide) (by decide) _
  | record entries =>
      rw [documentAt]
      exact solid_block level (c := '\x7b') rfl (by decide) (by decide) _

theorem solid_itemsText_cons (level : Nat) (item : Value) (items : List Value) :
    Solid (itemsText level (item :: items)) := by
  have solid := solid_document (level + 1) item
  cases items with
  | nil => rwa [itemsText_singleton]
  | cons next items =>
      rw [itemsText_cons_cons]
      exact solid.append _

/-! ## Steps back through the reader -/

theorem bind_eq_ok {α β : Type} {step : α → Reading β} {reading : Reading α} {value : β}
    (done : reading >>= step = .ok value) :
    ∃ part, reading = .ok part ∧ step part = .ok value := by
  cases reading with
  | error stop => cases done
  | ok part => exact ⟨part, rfl, done⟩

section

variable {lone : Bool} {fuel depth level : Nat} {cs start rest after : List Char}
  {read : Value}

/-- No fixed word begins like a number. -/
theorem noWord_of_numerals (inhabited : cs ≠ []) (numerals : ∀ c ∈ cs, isNumeral c = true)
    (ends : Ends rest) :
    (words.findSome? fun word =>
      (afterWord? word.1 (cs ++ rest)).map fun more => (word.2, more)) = none := by
  obtain ⟨c, others, rfl⟩ := List.exists_cons_of_ne_nil inhabited
  have differs : ∀ letter : Char, isNumeral letter = false → letter ≠ c := by
    rintro letter notNumeral rfl
    rw [numerals letter List.mem_cons_self] at notNumeral
    cases notNumeral
  have second : "Infinity".toList.isPrefixOf (others ++ rest) = false := by
    cases others with
    | nil =>
        cases rest with
        | nil => rfl
        | cons mark rest =>
            rcases ends mark rfl with rfl | rfl <;> rfl
    | cons d others =>
        have numeral := numerals d (List.mem_cons_of_mem _ List.mem_cons_self)
        have different : 'I' ≠ d := by
          rintro rfl
          simp [isNumeral] at numeral
        simp [List.isPrefixOf, different]
  apply List.findSome?_eq_none_iff.mpr
  intro word member
  have noPrefix : word.1.isPrefixOf (c :: (others ++ rest)) = false := by
    simp only [words, List.mem_cons, List.not_mem_nil, or_false] at member
    rcases member with rfl | rfl | rfl | rfl | rfl | rfl
    · simp [List.isPrefixOf, differs 'n' (by decide)]
    · simp [List.isPrefixOf, differs 't' (by decide)]
    · simp [List.isPrefixOf, differs 'f' (by decide)]
    · simp [List.isPrefixOf, differs 'N' (by decide)]
    · simp [List.isPrefixOf, differs 'I' (by decide)]
    · have shape : "-Infinity".toList = '-' :: "Infinity".toList := by decide
      simp only [shape, List.isPrefixOf, second, Bool.and_false]
  simp [afterWord?, noPrefix]

theorem of_readValue_numeral (inhabited : cs ≠ []) (numerals : ∀ c ∈ cs, isNumeral c = true)
    (ends : Ends rest)
    (done : readValue lone (fuel + 1) depth (cs ++ rest) = .ok (read, after)) :
    PassesTo after rest ∧ ∃ number, read = .number number := by
  have noWord := noWord_of_numerals inhabited numerals ends
  have differs : ∀ mark : Char, isNumeral mark = false → ∀ more, cs ++ rest ≠ mark :: more := by
    intro mark notNumeral more same
    obtain ⟨c, others, rfl⟩ := List.exists_cons_of_ne_nil inhabited
    obtain ⟨rfl, _⟩ := List.cons.inj same
    rw [numerals c List.mem_cons_self] at notNumeral
    cases notNumeral
  rw [readValue, noWord] at done
  · obtain ⟨⟨number, middle⟩, numberRead, same⟩ := bind_eq_ok done
    obtain ⟨rfl, rfl⟩ := Prod.mk.inj (Except.ok.inj same)
    exact ⟨(passesTo_of_readNumber numberRead).of_append numerals ends, number, rfl⟩
  · exact differs '\x22' (by decide)
  · exact differs '[' (by decide)
  · exact differs '\x7b' (by decide)

/-- A list that begins with an item was read item by item. -/
theorem of_readValue_list (solid : Solid start)
    (done : readValue lone (fuel + 1) depth ('[' :: (margin level ++ start)) =
      .ok (read, after)) :
    ∃ inner items, readItems lone fuel inner start = .ok (items, after) ∧
      read = .list items := by
  have spaces := skipSpace_margin level start
  rw [solid.skipSpace_eq] at spaces
  obtain ⟨c, others, rfl, _, notClosing, _⟩ := solid
  cases depth with
  | zero =>
      simp only [readValue, spaces] at done
      split at done
      · rename_i shape
        exact absurd (List.cons.inj shape).1 notClosing
      · cases done
      · contradiction
  | succ inner =>
      have byItems : readValue lone (fuel + 1) (inner + 1)
          ('[' :: (margin level ++ c :: others)) =
          readItems lone fuel inner (c :: others) >>= fun found =>
            .ok (.list found.1, found.2) := by
        simp [readValue, spaces, notClosing, pure, Except.pure]
      obtain ⟨⟨items, rest⟩, itemsRead, same⟩ := bind_eq_ok (byItems ▸ done)
      obtain ⟨rfl, rfl⟩ := Prod.mk.inj (Except.ok.inj same)
      exact ⟨inner, items, itemsRead, rfl⟩

/-- A record that begins with an entry was read entry by entry. -/
theorem of_readValue_record (solid : Solid start)
    (done : readValue lone (fuel + 1) depth ('\x7b' :: (margin level ++ start)) =
      .ok (read, after)) :
    ∃ inner entries, readEntries lone fuel inner start = .ok (entries, after) ∧
      read = .record (Ledger.putAll [] entries) := by
  have spaces := skipSpace_margin level start
  rw [solid.skipSpace_eq] at spaces
  obtain ⟨c, others, rfl, _, _, notClosing⟩ := solid
  cases depth with
  | zero =>
      simp only [readValue, spaces] at done
      split at done
      · rename_i shape
        exact absurd (List.cons.inj shape).1 notClosing
      · cases done
      · contradiction
  | succ inner =>
      have byEntries : readValue lone (fuel + 1) (inner + 1)
          ('\x7b' :: (margin level ++ c :: others)) =
          readEntries lone fuel inner (c :: others) >>= fun found =>
            .ok (.record (Ledger.putAll [] found.1), found.2) := by
        simp [readValue, spaces, notClosing, pure, Except.pure]
      obtain ⟨⟨entries, rest⟩, entriesRead, same⟩ := bind_eq_ok (byEntries ▸ done)
      obtain ⟨rfl, rfl⟩ := Prod.mk.inj (Except.ok.inj same)
      exact ⟨inner, entries, entriesRead, rfl⟩

/-- Items were read one by one, each followed by the end of the list or by a comma. -/
theorem of_readItems {items : List Value}
    (done : readItems lone (fuel + 1) depth cs = .ok (items, after)) :
    ∃ item middle, readValue lone fuel depth cs = .ok (item, middle) ∧
      ((skipSpace middle = ']' :: after ∧ items = [item]) ∨
        ∃ more others, skipSpace middle = ',' :: more ∧
          readItems lone fuel depth (skipSpace more) = .ok (others, after) ∧
          items = item :: others) := by
  rw [readItems] at done
  obtain ⟨⟨item, middle⟩, itemRead, done⟩ := bind_eq_ok done
  refine ⟨item, middle, itemRead, ?_⟩
  dsimp only at done
  split at done
  · rename_i rest shape
    obtain ⟨rfl, rfl⟩ := Prod.mk.inj (Except.ok.inj done)
    exact .inl ⟨shape, rfl⟩
  · rename_i more shape
    obtain ⟨⟨others, rest⟩, othersRead, same⟩ := bind_eq_ok done
    obtain ⟨rfl, rfl⟩ := Prod.mk.inj (Except.ok.inj same)
    exact .inr ⟨more, others, shape, othersRead, rfl⟩
  · cases done

/-- Entries were read one by one, each followed by the end of the record or by a comma. -/
theorem of_readEntries {name : String} {entries : List (String × Value)} (solid : Solid cs)
    (done : readEntries lone (fuel + 1) depth ((textForm false name).toList ++ ':' :: ' ' :: cs) =
      .ok (entries, after)) :
    ∃ value middle, readValue lone fuel depth cs = .ok (value, middle) ∧
      ((skipSpace middle = '\x7d' :: after ∧ entries = [(name, value)]) ∨
        ∃ more others, skipSpace middle = ',' :: more ∧
          readEntries lone fuel depth (skipSpace more) = .ok (others, after) ∧
          entries = (name, value) :: others) := by
  have space : skipSpace (' ' :: cs) = cs := solid.skipSpace_eq
  rw [toList_textForm, List.cons_append, List.append_assoc, List.singleton_append, readEntries,
    readText_textForm] at done
  have colon : skipSpace (':' :: ' ' :: cs) = ':' :: ' ' :: cs := skipSpace_mark rfl _
  simp only [bind, Except.bind, colon, space] at done
  split at done
  · cases done
  · rename_i pair valueRead
    obtain ⟨value, middle⟩ := pair
    refine ⟨value, middle, valueRead, ?_⟩
    dsimp only at done
    split at done
    · rename_i rest shape
      obtain ⟨rfl, rfl⟩ := Prod.mk.inj (Except.ok.inj done)
      exact .inl ⟨shape, rfl⟩
    · rename_i more shape
      obtain ⟨⟨others, rest⟩, othersRead, same⟩ := bind_eq_ok done
      obtain ⟨rfl, rfl⟩ := Prod.mk.inj (Except.ok.inj same)
      exact .inr ⟨more, others, shape, othersRead, rfl⟩
    · cases done

end

/-! ## Documents -/

/-- With this fuel, what is read of a part of a document echoes the part, and the reader
stops behind it; only of a number characters may be left. -/
structure ReadsEchoes (lone : Bool) (fuel : Nat) : Prop where
  value : ∀ {value read : Value} {level depth : Nat} {rest after : List Char}, Ends rest →
    readValue lone fuel depth ((documentAt level value).toList ++ rest) = .ok (read, after) →
    PassesTo after rest ∧ Echoes value read
  items : ∀ {items read : List Value} {level depth : Nat} {rest after : List Char},
    items ≠ [] →
    readItems lone fuel depth (itemsText level items ++ (margin level ++ ']' :: rest)) =
      .ok (read, after) →
    after = rest ∧ EchoesItems items read
  entries : ∀ {entries read : List (String × Value)} {level depth : Nat}
      {rest after : List Char}, entries ≠ [] →
    readEntries lone fuel depth (entriesText level entries ++ (margin level ++ '\x7d' :: rest)) =
      .ok (read, after) →
    after = rest ∧ EchoesEntries entries read

namespace ReadsEchoes

variable {lone : Bool} {fuel level depth : Nat} {rest after : List Char}

theorem of_readValue (echoes : ReadsEchoes lone fuel) {value read : Value} (ends : Ends rest)
    (done : readValue lone (fuel + 1) depth ((documentAt level value).toList ++ rest) =
      .ok (read, after)) :
    PassesTo after rest ∧ Echoes value read := by
  have exact : ∀ same : Value,
      readValue lone (fuel + 1) depth ((documentAt level value).toList ++ rest) =
        .ok (same, rest) → PassesTo after rest ∧ read = same := by
    intro same known
    obtain ⟨rfl, rfl⟩ := Prod.mk.inj (Except.ok.inj (done.symm.trans known))
    exact ⟨PassesTo.refl _, rfl⟩
  cases value with
  | null =>
      rw [Echoes]
      exact exact .null (by rw [documentAt]; rfl)
  | bool truth =>
      rw [Echoes]
      refine exact (.bool truth) ?_
      rw [documentAt]
      cases truth with
      | false => rfl
      | true => rfl
  | text text =>
      rw [Echoes]
      exact exact (.text text) (by rw [documentAt]; exact readValue_text text rest)
  | constant c =>
      rw [Echoes]
      exact exact (.text c.text) (by rw [documentAt]; exact readValue_text c.text rest)
  | number number =>
      rw [Echoes]
      rcases numberForm_cases Layout.stored number with null | ⟨inhabited, numerals⟩
      · obtain ⟨passes, same⟩ := exact .null (by rw [documentAt, null]; rfl)
        exact ⟨passes, .inl same⟩
      · rw [documentAt] at done
        obtain ⟨passes, found⟩ := of_readValue_numeral inhabited numerals ends done
        exact ⟨passes, .inr found⟩
  | list items =>
      rw [Echoes]
      cases items with
      | nil =>
          obtain ⟨passes, rfl⟩ := exact (.list []) (by rw [(toList_documentAt_nil level).1]; rfl)
          exact ⟨passes, [], rfl, by rw [EchoesItems]⟩
      | cons item items =>
          rw [toList_documentAt_list] at done
          simp only [List.cons_append, List.nil_append, List.append_assoc] at done
          have solid := solid_itemsText_cons level item items
          obtain ⟨inner, others, itemsRead, rfl⟩ := of_readValue_list (solid.append _) done
          obtain ⟨rfl, itemsEcho⟩ := echoes.items (List.cons_ne_nil _ _) itemsRead
          exact ⟨PassesTo.refl _, others, rfl, itemsEcho⟩
  | record entries =>
      rw [Echoes]
      cases entries with
      | nil =>
          obtain ⟨passes, rfl⟩ :=
            exact (.record []) (by rw [(toList_documentAt_nil level).2]; rfl)
          exact ⟨passes, [], rfl, by rw [EchoesEntries]⟩
      | cons entry entries =>
          rw [toList_documentAt_record] at done
          simp only [List.cons_append, List.nil_append, List.append_assoc] at done
          have solid := solid_entriesText level entry entries
          obtain ⟨inner, others, entriesRead, rfl⟩ := of_readValue_record (solid.append _) done
          obtain ⟨rfl, entriesEcho⟩ := echoes.entries (List.cons_ne_nil _ _) entriesRead
          exact ⟨PassesTo.refl _, others, rfl, entriesEcho⟩

/-- Behind the last part of a block its closing bracket comes next. -/
theorem close {middle : List Char} {closing mark : Char}
    (passes : PassesTo middle (margin level ++ closing :: rest))
    (next : skipSpace middle = mark :: after) (notNumeral : isNumeral mark = false)
    (notSpace : isSpace closing = false) : mark = closing ∧ after = rest := by
  rw [passes.eq_of_skipSpace next notNumeral, skipSpace_margin, skipSpace_mark notSpace] at next
  obtain ⟨rfl, rfl⟩ := List.cons.inj next
  exact ⟨rfl, rfl⟩

/-- Behind an earlier part a comma comes next. -/
theorem comma {middle : List Char} {mark : Char} (passes : PassesTo middle (',' :: rest))
    (next : skipSpace middle = mark :: after) (notNumeral : isNumeral mark = false) :
    mark = ',' ∧ after = rest := by
  rw [passes.eq_of_skipSpace next notNumeral, skipSpace_mark rfl] at next
  obtain ⟨rfl, rfl⟩ := List.cons.inj next
  exact ⟨rfl, rfl⟩

theorem of_readItems (echoes : ReadsEchoes lone fuel) {items read : List Value}
    (inhabited : items ≠ [])
    (done : readItems lone (fuel + 1) depth
      (itemsText level items ++ (margin level ++ ']' :: rest)) = .ok (read, after)) :
    after = rest ∧ EchoesItems items read := by
  obtain ⟨item, items, rfl⟩ := List.exists_cons_of_ne_nil inhabited
  obtain ⟨itemRead, middle, valueRead, next⟩ := Json.of_readItems done
  cases items with
  | nil =>
      rw [itemsText_singleton] at valueRead
      obtain ⟨passes, itemEcho⟩ := echoes.value (ends_margin level _) valueRead
      rcases next with ⟨next, rfl⟩ | ⟨more, others, next, _, _⟩
      · obtain ⟨_, rfl⟩ := close passes next rfl rfl
        exact ⟨rfl, by rw [EchoesItems]; exact ⟨itemRead, [], rfl, itemEcho, by rw [EchoesItems]⟩⟩
      · obtain ⟨wrong, _⟩ := close passes next rfl rfl
        cases wrong
  | cons second items =>
      rw [itemsText_cons_cons] at valueRead
      simp only [List.append_assoc, List.cons_append] at valueRead
      obtain ⟨passes, itemEcho⟩ := echoes.value (ends_comma _) valueRead
      rcases next with ⟨next, _⟩ | ⟨more, others, next, othersRead, rfl⟩
      · obtain ⟨wrong, _⟩ := comma passes next rfl
        cases wrong
      · obtain ⟨_, rfl⟩ := comma passes next rfl
        have solid := (solid_itemsText_cons level second items).append
          (margin level ++ ']' :: rest)
        rw [skipSpace_margin, solid.skipSpace_eq] at othersRead
        obtain ⟨rfl, othersEcho⟩ := echoes.items (List.cons_ne_nil _ _) othersRead
        exact ⟨rfl, by rw [EchoesItems]; exact ⟨itemRead, others, rfl, itemEcho, othersEcho⟩⟩

theorem of_readEntries (echoes : ReadsEchoes lone fuel)
    {entries read : List (String × Value)} (inhabited : entries ≠ [])
    (done : readEntries lone (fuel + 1) depth
      (entriesText level entries ++ (margin level ++ '\x7d' :: rest)) = .ok (read, after)) :
    after = rest ∧ EchoesEntries entries read := by
  obtain ⟨⟨name, value⟩, entries, rfl⟩ := List.exists_cons_of_ne_nil inhabited
  have solid := solid_document (level + 1) value
  cases entries with
  | nil =>
      rw [entriesText_singleton, entryText] at done
      simp only [List.append_assoc, List.cons_append] at done
      obtain ⟨valueRead, middle, done, next⟩ := Json.of_readEntries (solid.append _) done
      obtain ⟨passes, valueEcho⟩ := echoes.value (ends_margin level _) done
      rcases next with ⟨next, rfl⟩ | ⟨more, others, next, _, _⟩
      · obtain ⟨_, rfl⟩ := close passes next rfl rfl
        refine ⟨rfl, ?_⟩
        rw [EchoesEntries]
        exact ⟨valueRead, [], rfl, valueEcho, by rw [EchoesEntries]⟩
      · obtain ⟨wrong, _⟩ := close passes next rfl rfl
        cases wrong
  | cons second entries =>
      rw [entriesText_cons_cons, entryText] at done
      simp only [List.append_assoc, List.cons_append] at done
      obtain ⟨valueRead, middle, done, next⟩ := Json.of_readEntries (solid.append _) done
      obtain ⟨passes, valueEcho⟩ := echoes.value (ends_comma _) done
      rcases next with ⟨next, _⟩ | ⟨more, others, next, othersRead, rfl⟩
      · obtain ⟨wrong, _⟩ := comma passes next rfl
        cases wrong
      · obtain ⟨_, rfl⟩ := comma passes next rfl
        have laterSolid := (solid_entriesText level second entries).append
          (margin level ++ '\x7d' :: rest)
        rw [skipSpace_margin, laterSolid.skipSpace_eq] at othersRead
        obtain ⟨rfl, othersEcho⟩ := echoes.entries (List.cons_ne_nil _ _) othersRead
        refine ⟨rfl, ?_⟩
        rw [EchoesEntries]
        exact ⟨valueRead, others, rfl, valueEcho, othersEcho⟩

end ReadsEchoes

theorem readsEchoes (lone : Bool) (fuel : Nat) : ReadsEchoes lone fuel := by
  -- As for `readsBack`, the induction is on the fuel; without fuel nothing is read.
  induction fuel with
  | zero =>
      constructor
      · intro value read level depth rest after _ done
        rw [readValue] at done
        cases done
      · intro items read level depth rest after _ done
        rw [readItems] at done
        cases done
      · intro entries read level depth rest after _ done
        rw [readEntries] at done
        cases done
  | succ fuel echoes =>
      exact ⟨echoes.of_readValue, echoes.of_readItems, echoes.of_readEntries⟩

/-- The whole of a document is one value with spaces around it. -/
theorem exists_readValue_of_read {text : String} {tolerance : Tolerance} {value : Value}
    (done : Json.read text tolerance = .ok value) :
    ∃ fuel after, readValue tolerance.loneSurrogates (fuel + 1) tolerance.depth
        (skipSpace text.toList) = .ok (value, after) ∧ skipSpace after = [] := by
  rw [Json.read] at done
  split at done
  · rename_i found whole
    obtain rfl := Except.ok.inj done
    obtain ⟨⟨first, after⟩, valueRead, last⟩ := bind_eq_ok whole
    dsimp only at last
    split at last
    · rename_i ended
      obtain rfl := Except.ok.inj last
      exact ⟨_, after, valueRead, ended⟩
    · cases last
  · cases done

/-- What is read of the document of a value echoes the value. -/
theorem echoes_of_read {value read : Value} {tolerance : Tolerance}
    (done : Json.read (document value) tolerance = .ok read) : Echoes value read := by
  obtain ⟨fuel, after, valueRead, _⟩ := exists_readValue_of_read done
  rw [document, (solid_document 0 value).skipSpace_eq,
    ← List.append_nil (documentAt 0 value).toList] at valueRead
  exact ((readsEchoes _ _).value ends_nil valueRead).2

/-! ## Depth -/

theorem entriesDepth_put_le (entries : Ledger Value) (name : String) (value : Value) :
    Value.entriesDepth (Ledger.put entries name value) ≤
      max (Value.entriesDepth entries) value.depth := by
  induction entries with
  | nil => simp [Ledger.put, Value.entriesDepth]
  | cons entry rest induction =>
      obtain ⟨other, held⟩ := entry
      by_cases same : other = name
      · simp only [Ledger.put, same, if_true, Value.entriesDepth]
        omega
      · simp only [Ledger.put, same, if_false, Value.entriesDepth]
        omega

theorem entriesDepth_putAll_le (known entries : List (String × Value)) :
    Value.entriesDepth (Ledger.putAll known entries) ≤
      max (Value.entriesDepth known) (Value.entriesDepth entries) := by
  induction entries generalizing known with
  | nil => simp [Ledger.putAll, Value.entriesDepth]
  | cons entry rest induction =>
      have later := induction (Ledger.put known entry.1 entry.2)
      have first := entriesDepth_put_le known entry.1 entry.2
      have step : Ledger.putAll known (entry :: rest) =
          Ledger.putAll (Ledger.put known entry.1 entry.2) rest := rfl
      rw [step, Value.entriesDepth]
      omega

mutual

/-- What is read of a document nests no deeper than what was written. -/
theorem depth_le_of_echoes : ∀ {value read : Value}, Echoes value read → read.depth ≤ value.depth
  | .null, read, echoes | .bool _, read, echoes | .text _, read, echoes
  | .constant _, read, echoes => by
      rw [Echoes] at echoes
      simp [echoes, Value.depth]
  | .number _, read, echoes => by
      rw [Echoes] at echoes
      rcases echoes with rfl | ⟨number, rfl⟩ <;> simp [Value.depth]
  | .list items, read, echoes => by
      rw [Echoes] at echoes
      obtain ⟨others, rfl, itemsEcho⟩ := echoes
      have inner := greatestDepth_le_of_echoes itemsEcho
      simp only [Value.depth]
      omega
  | .record entries, read, echoes => by
      rw [Echoes] at echoes
      obtain ⟨others, rfl, entriesEcho⟩ := echoes
      have inner := entriesDepth_le_of_echoes entriesEcho
      have merged := entriesDepth_putAll_le [] others
      simp only [Value.depth]
      simp only [Value.entriesDepth] at merged
      omega

theorem greatestDepth_le_of_echoes : ∀ {items others : List Value}, EchoesItems items others →
    Value.greatestDepth others ≤ Value.greatestDepth items
  | [], others, echoes => by
      rw [EchoesItems] at echoes
      rw [echoes]
  | item :: items, others, echoes => by
      rw [EchoesItems] at echoes
      obtain ⟨read, rest, rfl, itemEcho, restEcho⟩ := echoes
      have head := depth_le_of_echoes itemEcho
      have tail := greatestDepth_le_of_echoes restEcho
      simp only [Value.greatestDepth]
      omega

theorem entriesDepth_le_of_echoes : ∀ {entries others : List (String × Value)},
    EchoesEntries entries others → Value.entriesDepth others ≤ Value.entriesDepth entries
  | [], others, echoes => by
      rw [EchoesEntries] at echoes
      rw [echoes]
  | (name, value) :: entries, others, echoes => by
      rw [EchoesEntries] at echoes
      obtain ⟨read, rest, rfl, valueEcho, restEcho⟩ := echoes
      have head := depth_le_of_echoes valueEcho
      have tail := entriesDepth_le_of_echoes restEcho
      simp only [Value.entriesDepth]
      omega

end

/-! ## Line ends -/

theorem hexDigit_ne_return (digit : Nat) (small : digit < 16) :
    Text.Quoted.hexDigit digit ≠ '\r' := by
  revert digit
  decide

theorem not_mem_hexDigits (width number : Nat) :
    '\r' ∉ Text.Quoted.hexDigits width number := by
  intro member
  obtain ⟨digit, small, same⟩ := Text.Quoted.exists_of_mem_hexDigits member
  exact hexDigit_ne_return digit small same.symm

theorem not_mem_escapeChar (c : Char) : '\r' ∉ escapeChar false c := by
  simp only [escapeChar, Bool.false_and, Bool.false_eq_true, if_false]
  by_cases same : c = '\r'
  · rw [same]
    decide
  · repeat' split
    -- Six more characters have escapes of their own.
    iterate 6 decide
    · intro member
      simp only [unitEscape, List.mem_cons] at member
      rcases member with wrong | wrong | member
      · cases wrong
      · cases wrong
      · exact not_mem_hexDigits _ _ member
    · simpa using Ne.symm same

theorem not_mem_textForm (text : String) : '\r' ∉ (textForm false text).toList := by
  rw [toList_textForm]
  simp only [List.mem_cons, List.mem_append, List.mem_flatMap, List.not_mem_nil, or_false]
  rintro (wrong | ⟨c, _, member⟩ | wrong)
  · cases wrong
  · exact not_mem_escapeChar c member
  · cases wrong

theorem mem_join {c : Char} {separator : String} {texts : List String}
    (member : c ∈ (Text.join separator texts).toList) :
    c ∈ separator.toList ∨ ∃ text ∈ texts, c ∈ text.toList := by
  induction texts with
  | nil => simp [Text.join] at member
  | cons text rest induction =>
      cases rest with
      | nil => exact .inr ⟨text, List.mem_cons_self, member⟩
      | cons next rest =>
          simp only [Text.join, String.toList_append, List.mem_append] at member
          rcases member with (member | member) | member
          · exact .inr ⟨text, List.mem_cons_self, member⟩
          · exact .inl member
          · rcases induction member with found | ⟨found, among, held⟩
            · exact .inl found
            · exact .inr ⟨found, List.mem_cons_of_mem _ among, held⟩

theorem not_mem_block (level : Nat) {opening closing : String} {parts : List String}
    (outer : '\r' ∉ opening.toList ∧ '\r' ∉ closing.toList)
    (inner : ∀ part ∈ parts, '\r' ∉ part.toList) :
    '\r' ∉ (block level opening closing parts).toList := by
  unfold block
  split
  · simp [outer.1, outer.2]
  · have joined : '\r' ∉ (Text.join
        (",\n" ++ String.ofList (List.replicate (2 * level) ' ') ++ "  ") parts).toList := by
      intro member
      rcases mem_join member with separator | ⟨part, among, held⟩
      · simp at separator
      · exact inner part among held
    simp [outer.1, outer.2, joined]

theorem not_mem_numberForm (number : Number) :
    '\r' ∉ (numberForm Layout.stored number).toList := by
  rcases numberForm_cases Layout.stored number with null | ⟨_, numerals⟩
  · rw [null]
    decide
  · intro member
    exact absurd (numerals _ member) (by decide)

mutual

/-- A document holds no carriage return. -/
theorem not_mem_documentAt : ∀ (level : Nat) (value : Value),
    '\r' ∉ (documentAt level value).toList
  | level, .null => by
      rw [documentAt]
      decide
  | level, .bool truth => by
      rw [documentAt]
      cases truth with
      | false => decide
      | true => decide
  | level, .number number => by
      rw [documentAt]
      exact not_mem_numberForm number
  | level, .text text => by
      rw [documentAt]
      exact not_mem_textForm text
  | level, .constant c => by
      rw [documentAt]
      exact not_mem_textForm c.text
  | level, .list items => by
      rw [documentAt]
      exact not_mem_block level (by decide) (not_mem_documentItems level items)
  | level, .record entries => by
      rw [documentAt]
      exact not_mem_block level (by decide) (not_mem_documentEntries level entries)

theorem not_mem_documentItems : ∀ (level : Nat) (items : List Value),
    ∀ part ∈ documentItems level items, '\r' ∉ part.toList
  | level, [] => by simp [documentItems]
  | level, item :: items => by
      rw [documentItems]
      exact List.forall_mem_cons.mpr
        ⟨not_mem_documentAt (level + 1) item, not_mem_documentItems level items⟩

theorem not_mem_documentEntries : ∀ (level : Nat) (entries : List (String × Value)),
    ∀ part ∈ documentEntries level entries, '\r' ∉ part.toList
  | level, [] => by simp [documentEntries]
  | level, (name, value) :: entries => by
      rw [documentEntries]
      refine List.forall_mem_cons.mpr ⟨?_, not_mem_documentEntries level entries⟩
      have first := not_mem_textForm name
      have second := not_mem_documentAt (level + 1) value
      simp [first, second]

end

end StageGraph.Json
