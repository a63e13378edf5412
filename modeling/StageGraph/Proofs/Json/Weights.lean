import StageGraph.Proofs.Json.Echoes
import StageGraph.Proofs.Text.Trimming

/-!
# What is read weighs less than its document

The weight of a text counts its characters but for blanks and commas.  Reading a document never
makes texts heavier: an escape is longer than what it stands for, and the other parts of a
document hold no texts.  The quotes of a text, and the brackets of a list, are lost, so the
document of a text or of a list is heavier by two at least.
-/

namespace StageGraph

namespace Text

/-- The number of characters that are neither blank nor a comma. -/
def weight (cs : List Char) : Nat :=
  cs.countP fun c => !isBlank c && c ≠ ','

@[simp] theorem weight_nil : weight [] = 0 :=
  rfl

@[simp] theorem weight_append (front back : List Char) :
    weight (front ++ back) = weight front + weight back :=
  List.countP_append

theorem weight_cons (c : Char) (rest : List Char) :
    weight (c :: rest) = weight [c] + weight rest :=
  weight_append [c] rest

theorem weight_singleton_le (c : Char) : weight [c] ≤ 1 :=
  List.countP_le_length

theorem weight_eq_zero {cs : List Char} (blanks : ∀ c ∈ cs, isBlank c = true) :
    weight cs = 0 := by
  apply List.countP_eq_zero.mpr
  intro c member
  simp [blanks c member]

/-- Trimming takes away blanks only. -/
theorem weight_trim (cs : List Char) : weight (trim cs) = weight cs := by
  have front : weight (trimStart cs) = weight cs := by
    have blanks : weight (cs.takeWhile isBlank) = 0 :=
      weight_eq_zero fun c member => List.mem_takeWhile_imp member
    calc weight (trimStart cs)
      _ = weight (cs.takeWhile isBlank) + weight (cs.dropWhile isBlank) := by
          rw [blanks, Nat.zero_add, trimStart]
      _ = weight cs := by rw [← weight_append, List.takeWhile_append_dropWhile]
  obtain ⟨blanks, allBlank, whole⟩ := exists_blanks (trimStart cs)
  have back : weight (trimEnd (trimStart cs)) = weight (trimStart cs) := by
    conv_rhs => rw [← whole, weight_append, weight_eq_zero allBlank, Nat.add_zero]
  rw [trim, back, front]

end Text

namespace Json

open Text (weight weight_cons weight_singleton_le)

/-! ## Texts -/

/-- The weight of the character of a unit; half of a pair counts like a character. -/
def unitWeight (unit : Nat) : Nat :=
  if isHigh unit || isLow unit then 1 else weight [Char.ofNat unit]

theorem unitWeight_le (unit : Nat) : unitWeight unit ≤ 1 := by
  unfold unitWeight
  split
  · exact Nat.le_refl _
  · exact weight_singleton_le _

theorem unitWeight_toNat (c : Char) : unitWeight c.toNat = weight [c] := by
  simp [unitWeight, not_isHigh_toNat, not_isLow_toNat]

theorem weight_joinUnits_le (units : List Nat) :
    weight (joinUnits units) ≤ (units.map unitWeight).sum := by
  induction units using joinUnits.induct with
  | case1 => exact Nat.le_refl _
  | case2 unit =>
      rw [joinUnits, List.map_singleton, List.sum_singleton, unitWeight]
      split
      · exact weight_singleton_le _
      · exact Nat.le_refl _
  | case3 unit next rest paired induction =>
      have joined : joinUnits (unit :: next :: rest) =
          Char.ofNat (0x10000 + (unit - 0xD800) * 0x400 + (next - 0xDC00)) :: joinUnits rest := by
        rw [joinUnits, if_pos paired]
      have halves : unitWeight unit = 1 := by
        simp only [Bool.and_eq_true] at paired
        simp [unitWeight, paired.1]
      have one := weight_singleton_le
        (Char.ofNat (0x10000 + (unit - 0xD800) * 0x400 + (next - 0xDC00)))
      rw [joined, weight_cons, List.map_cons, List.map_cons, List.sum_cons, List.sum_cons, halves]
      omega
  | case4 unit next rest unpaired alone induction =>
      have joined : joinUnits (unit :: next :: rest) = '\ufffd' :: joinUnits (next :: rest) := by
        rw [joinUnits, if_neg unpaired, if_pos alone]
      have half : unitWeight unit = 1 := by
        simp [unitWeight, alone]
      have one := weight_singleton_le '\ufffd'
      rw [joined, weight_cons, List.map_cons, List.sum_cons, half]
      omega
  | case5 unit next rest unpaired whole induction =>
      have joined : joinUnits (unit :: next :: rest) =
          Char.ofNat unit :: joinUnits (next :: rest) := by
        rw [joinUnits, if_neg unpaired, if_neg whole]
      have same : unitWeight unit = weight [Char.ofNat unit] := by
        rw [unitWeight, if_neg whole]
      rw [joined, weight_cons, List.map_cons, List.sum_cons, same]
      omega

theorem weight_readUnits_le {start cs after : List Char} {units : List Nat}
    (done : readUnits start cs = .ok (units, after)) :
    (units.map unitWeight).sum + weight after + 1 ≤ weight cs := by
  have escape : weight ['\\'] = 1 := by decide
  have quote : weight ['\x22'] = 1 := by decide
  -- Each unit costs the character or the escape that it was read of.
  fun_induction readUnits start cs generalizing units after with
  | case2 rest =>
      obtain ⟨rfl, rfl⟩ := Prod.mk.inj (Except.ok.inj done)
      rw [weight_cons, quote, List.map_nil, List.sum_nil]
      omega
  | case5 a b c d next rest code named induction =>
      obtain ⟨⟨later, left⟩, laterRead, same⟩ := bind_eq_ok done
      obtain ⟨rfl, rfl⟩ := Prod.mk.inj (Except.ok.inj same)
      have more := induction laterRead
      have one := unitWeight_le code
      simp only [weight_cons _ (_ :: _)] at more ⊢
      rw [escape, List.map_cons, List.sum_cons]
      omega
  | case8 c rest notPair notUnit code named induction =>
      obtain ⟨⟨later, left⟩, laterRead, same⟩ := bind_eq_ok done
      obtain ⟨rfl, rfl⟩ := Prod.mk.inj (Except.ok.inj same)
      have more := induction laterRead
      have one := unitWeight_le code
      rw [weight_cons, weight_cons c, escape, List.map_cons, List.sum_cons]
      omega
  | case10 c rest notQuote notLast notPair notUnit notEscape notControl induction =>
      obtain ⟨⟨later, left⟩, laterRead, same⟩ := bind_eq_ok done
      obtain ⟨rfl, rfl⟩ := Prod.mk.inj (Except.ok.inj same)
      have more := induction laterRead
      rw [weight_cons, List.map_cons, List.sum_cons, unitWeight_toNat]
      omega
  | _ => cases done

theorem weight_readText_le {lone : Bool} {rest after : List Char} {text : String}
    (done : readText lone rest = .ok (text, after)) :
    weight text.toList + weight after + 1 ≤ weight rest := by
  obtain ⟨⟨units, left⟩, unitsRead, done⟩ := bind_eq_ok done
  dsimp only at done
  split at done
  · obtain ⟨rfl, rfl⟩ := Prod.mk.inj (Except.ok.inj done)
    have joined := weight_joinUnits_le units
    have read := weight_readUnits_le unitsRead
    rw [String.toList_ofList]
    omega
  · cases done

/-! ## Steps of the reader -/

/-- The forms in which a value is read, with what is left behind it. -/
inductive ValueRead (lone : Bool) (fuel : Nat) : List Char → Value → List Char → Prop where
  | text {rest after : List Char} {text : String}
      (read : readText lone rest = .ok (text, after)) :
      ValueRead lone fuel ('\x22' :: rest) (.text text) after
  | emptyList {rest after : List Char} (closed : skipSpace rest = ']' :: after) :
      ValueRead lone fuel ('[' :: rest) (.list []) after
  | list {rest after : List Char} {depth : Nat} {items : List Value}
      (read : readItems lone fuel depth (skipSpace rest) = .ok (items, after)) :
      ValueRead lone fuel ('[' :: rest) (.list items) after
  | emptyRecord {rest after : List Char} (closed : skipSpace rest = '\x7d' :: after) :
      ValueRead lone fuel ('\x7b' :: rest) (.record []) after
  | record {rest after : List Char} {depth : Nat} {entries : List (String × Value)}
      (read : readEntries lone fuel depth (skipSpace rest) = .ok (entries, after)) :
      ValueRead lone fuel ('\x7b' :: rest) (.record (Ledger.putAll [] entries)) after
  | word {word : List Char × Value} {after : List Char} (member : word ∈ words) :
      ValueRead lone fuel (word.1 ++ after) word.2 after
  | number {cs after : List Char} {number : Number}
      (read : readNumber cs = .ok (number, after)) :
      ValueRead lone fuel cs (.number number) after

variable {lone : Bool} {fuel depth : Nat} {cs after : List Char}

theorem of_afterWord? {word rest : List Char} (found : afterWord? word cs = some rest) :
    cs = word ++ rest := by
  unfold afterWord? at found
  split at found
  · rename_i begins
    obtain ⟨more, rfl⟩ := List.isPrefixOf_iff_prefix.mp begins
    rw [List.drop_left] at found
    rw [Option.some.inj found]
  · cases found

theorem valueRead_of_readValue {value : Value}
    (done : readValue lone (fuel + 1) depth cs = .ok (value, after)) :
    ValueRead lone fuel cs value after := by
  rw [readValue.eq_def] at done
  dsimp only at done
  split at done
  · obtain ⟨⟨text, left⟩, read, same⟩ := bind_eq_ok done
    obtain ⟨rfl, rfl⟩ := Prod.mk.inj (Except.ok.inj same)
    exact .text read
  · split at done
    · rename_i closed
      obtain ⟨rfl, rfl⟩ := Prod.mk.inj (Except.ok.inj done)
      exact .emptyList closed
    · cases done
    · obtain ⟨⟨items, left⟩, read, same⟩ := bind_eq_ok done
      obtain ⟨rfl, rfl⟩ := Prod.mk.inj (Except.ok.inj same)
      exact .list read
  · split at done
    · rename_i closed
      obtain ⟨rfl, rfl⟩ := Prod.mk.inj (Except.ok.inj done)
      exact .emptyRecord closed
    · cases done
    · obtain ⟨⟨entries, left⟩, read, same⟩ := bind_eq_ok done
      obtain ⟨rfl, rfl⟩ := Prod.mk.inj (Except.ok.inj same)
      exact .record read
  · split at done
    · rename_i found spelled
      obtain rfl := Except.ok.inj done
      obtain ⟨word, member, spelled⟩ := List.exists_of_findSome?_eq_some spelled
      obtain ⟨rest, begins, same⟩ := Option.map_eq_some_iff.mp spelled
      obtain ⟨rfl, rfl⟩ := Prod.mk.inj same
      rw [of_afterWord? begins]
      exact .word member
    · obtain ⟨⟨number, left⟩, read, same⟩ := bind_eq_ok done
      obtain ⟨rfl, rfl⟩ := Prod.mk.inj (Except.ok.inj same)
      exact .number read

/-- Entries were read one by one, each followed by the end of the record or by a comma. -/
theorem exists_of_readEntries {entries : List (String × Value)}
    (done : readEntries lone (fuel + 1) depth cs = .ok (entries, after)) :
    ∃ rest name middle more value left, cs = '\x22' :: rest ∧
      readText lone rest = .ok (name, middle) ∧ skipSpace middle = ':' :: more ∧
      readValue lone fuel depth (skipSpace more) = .ok (value, left) ∧
      (skipSpace left = '\x7d' :: after ∨
        ∃ next others, skipSpace left = ',' :: next ∧
          readEntries lone fuel depth (skipSpace next) = .ok (others, after)) := by
  rw [readEntries.eq_def] at done
  dsimp only at done
  split at done
  · rename_i rest
    obtain ⟨⟨name, middle⟩, nameRead, done⟩ := bind_eq_ok done
    dsimp only at done
    split at done
    · rename_i more colon
      obtain ⟨⟨value, left⟩, valueRead, done⟩ := bind_eq_ok done
      refine ⟨rest, name, middle, more, value, left, rfl, nameRead, colon, valueRead, ?_⟩
      dsimp only at done
      split at done
      · rename_i closed
        obtain ⟨_, rfl⟩ := Prod.mk.inj (Except.ok.inj done)
        exact .inl closed
      · rename_i next comma
        obtain ⟨⟨others, last⟩, othersRead, same⟩ := bind_eq_ok done
        obtain ⟨_, rfl⟩ := Prod.mk.inj (Except.ok.inj same)
        exact .inr ⟨next, others, comma, othersRead⟩
      · cases done
    · cases done
  · cases done

/-! ## Values -/

/-- What a text weighs; other values weigh nothing. -/
def textWeight : Value → Nat
  | .text text => weight text.toList
  | .constant c => weight c.text.toList
  | .null | .bool _ | .number _ | .list _ | .record _ => 0

/-- What a text, or the texts of a list, weigh together with their quotes or brackets. -/
def closedWeight : Value → Nat
  | .list items => (items.map textWeight).sum + 2
  | .text text => weight text.toList + 2
  | .constant c => weight c.text.toList + 2
  | .null | .bool _ | .number _ | .record _ => 0

theorem textWeight_le_closedWeight (value : Value) : textWeight value ≤ closedWeight value := by
  cases value with
  | text text => exact Nat.le_add_right _ _
  | constant c => exact Nat.le_add_right _ _
  | _ => exact Nat.zero_le _

theorem closedWeight_of_mem_words {word : List Char × Value} (member : word ∈ words) :
    closedWeight word.2 = 0 := by
  simp only [words, List.mem_cons, List.not_mem_nil, or_false] at member
  rcases member with rfl | rfl | rfl | rfl | rfl | rfl <;> rfl

theorem isBlank_of_isSpace {c : Char} (space : isSpace c = true) : Text.isBlank c = true := by
  simp only [isSpace, Bool.or_eq_true, decide_eq_true_eq] at space
  rcases space with ((rfl | rfl) | rfl) | rfl <;> decide

theorem weight_skipSpace (cs : List Char) : weight (skipSpace cs) = weight cs := by
  have spaces : weight (cs.takeWhile isSpace) = 0 :=
    Text.weight_eq_zero fun c member => isBlank_of_isSpace (List.mem_takeWhile_imp member)
  calc weight (skipSpace cs)
    _ = weight (cs.takeWhile isSpace) + weight (cs.dropWhile isSpace) := by
        rw [spaces, Nat.zero_add, skipSpace]
    _ = weight cs := by rw [← Text.weight_append, List.takeWhile_append_dropWhile]

theorem weight_of_skipSpace {mark : Char} (next : skipSpace cs = mark :: after) :
    weight [mark] + weight after = weight cs := by
  rw [← weight_skipSpace cs, next, ← weight_cons]

theorem weight_readNumber_le {number : Number} (read : readNumber cs = .ok (number, after)) :
    weight after ≤ weight cs := by
  obtain ⟨passed, rfl, _⟩ := passesTo_of_readNumber read
  rw [Text.weight_append]
  omega

/-- With this fuel, what is read and what is left weigh no more than what stood there. -/
structure Weighs (lone : Bool) (fuel : Nat) : Prop where
  value : ∀ {depth : Nat} {cs after : List Char} {value : Value},
    readValue lone fuel depth cs = .ok (value, after) →
    closedWeight value + weight after ≤ weight cs
  items : ∀ {depth : Nat} {cs after : List Char} {items : List Value},
    readItems lone fuel depth cs = .ok (items, after) →
    (items.map textWeight).sum + weight after + 1 ≤ weight cs
  entries : ∀ {depth : Nat} {cs after : List Char} {entries : List (String × Value)},
    readEntries lone fuel depth cs = .ok (entries, after) → weight after ≤ weight cs

namespace Weighs

theorem of_readValue (weighs : Weighs lone fuel) {value : Value}
    (done : readValue lone (fuel + 1) depth cs = .ok (value, after)) :
    closedWeight value + weight after ≤ weight cs := by
  cases valueRead_of_readValue done with
  | text read =>
      have inner := weight_readText_le read
      have quote : weight ['\x22'] = 1 := by decide
      rw [weight_cons, quote, closedWeight]
      omega
  | emptyList closed =>
      have next := weight_of_skipSpace closed
      have opening : weight ['['] = 1 := by decide
      have closing : weight [']'] = 1 := by decide
      rw [weight_cons, opening, closedWeight, List.map_nil, List.sum_nil]
      omega
  | list read =>
      have inner := weighs.items read
      have opening : weight ['['] = 1 := by decide
      rw [weight_skipSpace] at inner
      rw [weight_cons, opening, closedWeight]
      omega
  | emptyRecord closed =>
      have next := weight_of_skipSpace closed
      rw [weight_cons, closedWeight]
      omega
  | record read =>
      have inner := weighs.entries read
      rw [weight_skipSpace] at inner
      rw [weight_cons, closedWeight]
      omega
  | word member =>
      rw [closedWeight_of_mem_words member, Text.weight_append]
      omega
  | number read =>
      rw [closedWeight, Nat.zero_add]
      exact weight_readNumber_le read

theorem of_readItems (weighs : Weighs lone fuel) {items : List Value}
    (done : readItems lone (fuel + 1) depth cs = .ok (items, after)) :
    (items.map textWeight).sum + weight after + 1 ≤ weight cs := by
  obtain ⟨item, middle, itemRead, next⟩ := Json.of_readItems done
  have first := weighs.value itemRead
  have inside := textWeight_le_closedWeight item
  rcases next with ⟨closed, rfl⟩ | ⟨more, others, comma, othersRead, rfl⟩
  · have last := weight_of_skipSpace closed
    have closing : weight [']'] = 1 := by decide
    rw [List.map_singleton, List.sum_singleton]
    omega
  · have last := weight_of_skipSpace comma
    have later := weighs.items othersRead
    rw [weight_skipSpace] at later
    rw [List.map_cons, List.sum_cons]
    omega

theorem of_readEntries (weighs : Weighs lone fuel) {entries : List (String × Value)}
    (done : readEntries lone (fuel + 1) depth cs = .ok (entries, after)) :
    weight after ≤ weight cs := by
  obtain ⟨rest, name, middle, more, value, left, rfl, nameRead, colon, valueRead, next⟩ :=
    exists_of_readEntries done
  have nameLight := weight_readText_le nameRead
  have colonLight := weight_of_skipSpace colon
  have valueLight := weighs.value valueRead
  rw [weight_skipSpace] at valueLight
  rw [weight_cons]
  rcases next with closed | ⟨next, others, comma, othersRead⟩
  · have last := weight_of_skipSpace closed
    omega
  · have last := weight_of_skipSpace comma
    have later := weighs.entries othersRead
    rw [weight_skipSpace] at later
    omega

end Weighs

theorem weighs (lone : Bool) (fuel : Nat) : Weighs lone fuel := by
  -- As for `readsEchoes`, the induction is on the fuel; without fuel nothing is read.
  induction fuel with
  | zero =>
      constructor
      · intro depth cs after value done
        rw [readValue] at done
        cases done
      · intro depth cs after items done
        rw [readItems] at done
        cases done
      · intro depth cs after entries done
        rw [readEntries] at done
        cases done
  | succ fuel weighs =>
      exact ⟨weighs.of_readValue, weighs.of_readItems, weighs.of_readEntries⟩

/-- The texts of a document weigh less than the document by their quotes or brackets. -/
theorem closedWeight_le_of_read {text : String} {tolerance : Tolerance} {value : Value}
    (done : Json.read text tolerance = .ok value) : closedWeight value ≤ weight text.toList := by
  obtain ⟨fuel, after, read, _⟩ := exists_readValue_of_read done
  have light := (weighs _ _).value read
  rw [weight_skipSpace] at light
  omega

/-- Only the word for null is read as null. -/
theorem weight_of_read_null {text : String} {tolerance : Tolerance}
    (done : Json.read text tolerance = .ok .null) : weight text.toList = 4 := by
  obtain ⟨fuel, after, read, ended⟩ := exists_readValue_of_read done
  have light : weight after = 0 := by
    rw [← weight_skipSpace, ended, Text.weight_nil]
  rw [← weight_skipSpace]
  generalize skipSpace text.toList = cs at read
  generalize same : Value.null = value at read
  cases valueRead_of_readValue read with
  | word member =>
      simp only [words, List.mem_cons, List.not_mem_nil, or_false] at member
      rcases member with rfl | rfl | rfl | rfl | rfl | rfl
      · rw [Text.weight_append, light]
        decide
      all_goals cases same
  | _ => cases same

end Json

end StageGraph
