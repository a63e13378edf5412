import StageGraph.Proofs.Json.Texts
import StageGraph.Proofs.Ledger
import StageGraph.Proofs.Text.Pieces
import StageGraph.Proofs.Time.Written

/-!
# Documents hold their values

The document of a plain value is read as this value.  A value is plain when it has
no declared constants and no repeated names, nests no deeper than the reader
follows, and holds numbers only whose texts are read as the numbers.  For integers
this means a bound on their digits; of binary numbers it is asked for.
-/

namespace StageGraph.Json

/-! ## Numbers -/

/-- What may follow a value in a document. -/
def Ends (rest : List Char) : Prop :=
  ∀ c ∈ rest.head?, c = ',' ∨ c = '\n'

theorem ne_of_isDigit {c other : Char} (digit : c.isDigit = true)
    (notDigit : other.isDigit = false) : c ≠ other := by
  rintro rfl
  rw [notDigit] at digit
  cases digit

theorem not_isDigit_of_ends {c : Char} (ends : c = ',' ∨ c = '\n') : c.isDigit = false := by
  rcases ends with rfl | rfl <;> decide

/-- Whatever follows a number, the number is read from its text. -/
def NumberKept (number : Number) : Prop :=
  ∀ rest, Ends rest →
    readNumber ((numberForm Layout.stored number).toList ++ rest) = .ok (number, rest)

variable {digits rest : List Char}

theorem takeWhile_isDigit (all : ∀ c ∈ digits, c.isDigit = true) (ends : Ends rest) :
    (digits ++ rest).takeWhile Char.isDigit = digits := by
  rw [List.takeWhile_append_of_pos all]
  cases rest with
  | nil => simp
  | cons c rest => simp [not_isDigit_of_ends (ends c rfl)]

theorem dropWhile_isDigit (all : ∀ c ∈ digits, c.isDigit = true) (ends : Ends rest) :
    (digits ++ rest).dropWhile Char.isDigit = rest := by
  rw [List.dropWhile_append_of_pos all]
  cases rest with
  | nil => rfl
  | cons c rest => simp [not_isDigit_of_ends (ends c rfl)]

theorem head?_toDigits_ne_zero {number : Nat} (positive : 0 < number) :
    (Nat.toDigits 10 number).head? ≠ some '0' := by
  induction number using Nat.strongRecOn with
  | ind number induction =>
      rw [Nat.toDigits_eq_if (by decide)]
      split
      · rename_i small
        have all : ∀ digit < 10, 0 < digit → [Nat.digitChar digit].head? ≠ some '0' := by
          decide
        exact all number small positive
      · rename_i large
        rw [List.head?_append]
        have inhabited := Nat.toDigits_ne_nil (n := number / 10) (b := 10)
        obtain ⟨c, others, split⟩ := List.exists_cons_of_ne_nil inhabited
        have first := induction (number / 10) (by omega) (by omega)
        rw [split] at first ⊢
        simpa using first

theorem readWhole_toDigits (number : Nat) (ends : Ends rest) :
    readWhole (Nat.toDigits 10 number ++ rest) = (Nat.toDigits 10 number, rest) := by
  have all : ∀ c ∈ Nat.toDigits 10 number, c.isDigit = true :=
    fun c member => Nat.isDigit_of_mem_toDigits (by decide) (by decide) member
  rcases Nat.eq_zero_or_pos number with rfl | positive
  · rfl
  · have first := head?_toDigits_ne_zero positive
    obtain ⟨c, others, split⟩ := List.exists_cons_of_ne_nil
      (Nat.toDigits_ne_nil (n := number) (b := 10))
    unfold readWhole
    split
    · rename_i zero
      rw [split] at first zero
      exact absurd (congrArg some (List.cons.inj zero).1) first
    · rw [takeWhile_isDigit all ends, dropWhile_isDigit all ends]

theorem toList_toString (number : Int) :
    (toString number).toList =
      if number < 0 then '-' :: Nat.toDigits 10 number.natAbs
      else Nat.toDigits 10 number.natAbs := by
  cases number with
  | ofNat number => simp [toString, Int.repr, Nat.repr_eq_ofList_toDigits]
  | negSucc number => simp [toString, Int.repr, Nat.repr_eq_ofList_toDigits]

theorem readNumber_toDigits {number : Nat} (negative : Bool)
    (short : (Nat.toDigits 10 number).length ≤ Number.digitLimit) (ends : Ends rest) :
    readNumber ((if negative then ['-'] else []) ++ Nat.toDigits 10 number ++ rest) =
      .ok (.integer (if negative then -number else number), rest) := by
  have inhabited := Nat.toDigits_ne_nil (n := number) (b := 10)
  have all : ∀ c ∈ Nat.toDigits 10 number, c.isDigit = true :=
    fun c member => Nat.isDigit_of_mem_toDigits (by decide) (by decide) member
  have fraction : readFraction? rest = none := by
    unfold readFraction?
    split
    · have point := ends '.' rfl
      simp at point
    · rfl
  have exponent : readExponent? rest = none := by
    unfold readExponent?
    split
    · have letter := ends 'e' rfl
      simp at letter
    · have letter := ends 'E' rfl
      simp at letter
    · rfl
  have value : digitsValue (Nat.toDigits 10 number) = number :=
    (WrittenTime.digitsValue_eq _).trans Nat.ofDigitChars_ten_toDigits
  have whole : (Nat.toDigits 10 number).isEmpty = false := by simp
  cases negative with
  | true =>
      simp only [if_true, List.cons_append, List.nil_append]
      unfold readNumber
      simp [readWhole_toDigits number ends, whole, fraction, exponent, value,
        Nat.not_lt.mpr short]
  | false =>
      obtain ⟨c, others, split⟩ := List.exists_cons_of_ne_nil inhabited
      have digit := all c (split ▸ List.mem_cons_self)
      have notSign : c ≠ '-' := ne_of_isDigit digit (by decide)
      have read := readWhole_toDigits number ends
      rw [split] at read value short ⊢
      have fits : ¬ Number.digitLimit < others.length + 1 := Nat.not_lt.mpr short
      simp only [List.cons_append] at read
      simp [readNumber, notSign, read, fraction, exponent, value, fits]

/-- Integers are kept, unless they are too long to be read. -/
theorem numberKept_integer {number : Int}
    (short : (Nat.toDigits 10 number.natAbs).length ≤ Number.digitLimit) :
    NumberKept (.integer number) := by
  intro rest ends
  have read := readNumber_toDigits (decide (number < 0)) short ends
  have text : (numberForm Layout.stored (.integer number)).toList =
      (if decide (number < 0) then ['-'] else []) ++ Nat.toDigits 10 number.natAbs := by
    rw [numberForm, toList_toString]
    by_cases negative : number < 0 <;> simp [negative]
  have same : (if decide (number < 0) then -(number.natAbs : Int) else number.natAbs) =
      number := by
    by_cases negative : number < 0
    · simp only [negative, decide_true, if_true]
      omega
    · simp only [negative, decide_false, Bool.false_eq_true, if_false]
      omega
  rw [text, read, same]

/-- What is read as a number begins with a digit or with a sign before one. -/
theorem head_of_readNumber {cs : List Char} {number : Number}
    (read : readNumber cs = .ok (number, rest)) :
    ∃ c others, c.isDigit = true ∧ (cs = c :: others ∨ cs = '-' :: c :: others) := by
  have digit : ∀ cs, (readWhole cs).1.isEmpty = false →
      ∃ c others, c.isDigit = true ∧ cs = c :: others := by
    intro cs whole
    unfold readWhole at whole
    split at whole
    · exact ⟨_, _, rfl, rfl⟩
    · cases cs with
      | nil => cases whole
      | cons c others =>
          by_cases isDigit : c.isDigit = true
          · exact ⟨c, others, isDigit, rfl⟩
          · simp [isDigit] at whole
  unfold readNumber at read
  split at read
  rename_i negative unsigned sign
  have inhabited : (readWhole unsigned).1.isEmpty = false := by
    cases whole : (readWhole unsigned).1.isEmpty with
    | false => rfl
    | true =>
        simp only [whole, if_true] at read
        cases read
  obtain ⟨c, others, isDigit, rfl⟩ := digit unsigned inhabited
  refine ⟨c, others, isDigit, ?_⟩
  split at sign
  · exact .inr (congrArg _ (Prod.mk.inj sign).2)
  · exact .inl (Prod.mk.inj sign).2

/-! ## Plain values -/

mutual

/-- The value can be read from its document by a reader who follows `depth` levels. -/
def Plain (depth : Nat) : Value → Prop
  | .null | .bool _ | .text _ => True
  | .number number => NumberKept number
  | .constant _ => False
  | .list items =>
    match depth with
    | 0 => items = []
    | depth + 1 => PlainItems depth items
  | .record entries =>
    match depth with
    | 0 => entries = []
    | depth + 1 => (Ledger.keys entries).Nodup ∧ PlainEntries depth entries

/-- All values of a list can be read. -/
def PlainItems (depth : Nat) : List Value → Prop
  | [] => True
  | value :: rest => Plain depth value ∧ PlainItems depth rest

/-- All values of a record can be read. -/
def PlainEntries (depth : Nat) : List (String × Value) → Prop
  | [] => True
  | (_, value) :: rest => Plain depth value ∧ PlainEntries depth rest

end

/-! ## Spaces -/

/-- The text begins with a character that is no space and closes nothing. -/
def Solid (cs : List Char) : Prop :=
  ∃ c others, cs = c :: others ∧ isSpace c = false ∧ c ≠ ']' ∧ c ≠ '\x7d'

theorem Solid.append {cs : List Char} (solid : Solid cs) (rest : List Char) :
    Solid (cs ++ rest) := by
  obtain ⟨c, others, rfl, notSpace, notList, notRecord⟩ := solid
  exact ⟨c, others ++ rest, rfl, notSpace, notList, notRecord⟩

theorem skipSpace_append {spaces cs : List Char} (all : ∀ c ∈ spaces, isSpace c = true) :
    skipSpace (spaces ++ cs) = skipSpace cs :=
  List.dropWhile_append_of_pos all

theorem skipSpace_mark {mark : Char} (notSpace : isSpace mark = false) (cs : List Char) :
    skipSpace (mark :: cs) = mark :: cs := by
  simp [skipSpace, notSpace]

theorem Solid.skipSpace_eq {cs : List Char} (solid : Solid cs) : skipSpace cs = cs := by
  obtain ⟨c, others, rfl, notSpace, _⟩ := solid
  exact skipSpace_mark notSpace others

/-- The line feed and the margin before a part of a block. -/
def margin (level : Nat) : List Char :=
  '\n' :: List.replicate (2 * level) ' '

theorem isSpace_of_mem_margin {level : Nat} {c : Char} (member : c ∈ margin level) :
    isSpace c = true := by
  rcases List.mem_cons.mp member with rfl | member
  · rfl
  · rw [(List.mem_replicate.mp member).2]
    rfl

theorem skipSpace_margin (level : Nat) (cs : List Char) :
    skipSpace (margin level ++ cs) = skipSpace cs :=
  skipSpace_append fun _ => isSpace_of_mem_margin

theorem ends_nil : Ends [] := by
  intro c member
  cases member

theorem ends_margin (level : Nat) (cs : List Char) : Ends (margin level ++ cs) := by
  intro c member
  cases member
  exact .inr rfl

theorem ends_comma (cs : List Char) : Ends (',' :: cs) := by
  intro c member
  cases member
  exact .inl rfl

/-- A block with parts: each on a line of its own, one level deeper. -/
theorem toList_block (level : Nat) (opening closing : String) {parts : List String}
    (inhabited : parts ≠ []) :
    (block level opening closing parts).toList =
      opening.toList ++ (margin (level + 1) ++
        (List.intercalate (',' :: margin (level + 1)) (parts.map String.toList) ++
          (margin level ++ closing.toList))) := by
  have deeper : 2 * (level + 1) = 2 * level + 2 := rfl
  have separator : (",\n" ++ String.ofList (List.replicate (2 * level) ' ') ++ "  ").toList =
      ',' :: margin (level + 1) := by
    simp [margin, deeper, List.replicate_add]
  have notEmpty : parts.isEmpty = false := by simpa using inhabited
  simp only [block, notEmpty, Bool.false_eq_true, if_false, String.toList_append,
    String.toList_ofList, Text.toList_join, ← separator]
  simp [margin, deeper, List.replicate_add]

/-! ## Steps of the reader -/

section

variable {lone : Bool} {fuel depth level : Nat} {cs start after : List Char}

theorem readValue_text (text : String) (rest : List Char) :
    readValue lone (fuel + 1) depth ((textForm false text).toList ++ rest) =
      .ok (.text text, rest) := by
  rw [toList_textForm, List.cons_append, List.append_assoc, List.singleton_append, readValue,
    readText_textForm]
  rfl

theorem not_isPrefixOf_words {word : List Char × Value} (member : word ∈ words) {c : Char}
    (digit : c.isDigit = true) (others : List Char) :
    word.1.isPrefixOf (c :: others) = false ∧
      word.1.isPrefixOf ('-' :: c :: others) = false := by
  have differs : ∀ letter : Char, letter.isDigit = false → letter ≠ c :=
    fun letter notDigit => (ne_of_isDigit digit notDigit).symm
  simp only [words, List.mem_cons, List.not_mem_nil, or_false] at member
  rcases member with rfl | rfl | rfl | rfl | rfl | rfl <;>
    simp [List.isPrefixOf, differs]

theorem readValue_number {number : Number} (read : readNumber cs = .ok (number, after)) :
    readValue lone (fuel + 1) depth cs = .ok (.number number, after) := by
  obtain ⟨c, others, digit, shape⟩ := head_of_readNumber read
  have noWord : (words.findSome? fun word =>
      (afterWord? word.1 cs).map fun rest => (word.2, rest)) = none := by
    apply List.findSome?_eq_none_iff.mpr
    intro word member
    have noPrefix := not_isPrefixOf_words member digit others
    rcases shape with rfl | rfl <;> simp [afterWord?, noPrefix]
  have differs : ∀ mark : Char, mark.isDigit = false → mark ≠ '-' →
      ∀ rest, cs ≠ mark :: rest := by
    intro mark notDigit notSign rest same
    rcases shape with rfl | rfl
    · exact ne_of_isDigit digit notDigit (List.cons.inj same).1
    · exact notSign (List.cons.inj same).1.symm
  rw [readValue, noWord]
  · simp only [read]
    rfl
  · exact differs '\x22' (by decide) (by decide)
  · exact differs '[' (by decide) (by decide)
  · exact differs '\x7b' (by decide) (by decide)

theorem readValue_list {items : List Value} (solid : Solid start)
    (read : readItems lone fuel depth start = .ok (items, after)) :
    readValue lone (fuel + 1) (depth + 1) ('[' :: (margin level ++ start)) =
      .ok (.list items, after) := by
  have spaces := skipSpace_margin level start
  rw [solid.skipSpace_eq] at spaces
  obtain ⟨c, others, rfl, _, notClosing, _⟩ := solid
  simp [readValue, spaces, notClosing, read, bind, Except.bind, pure, Except.pure]

theorem readValue_record {entries : List (String × Value)} (solid : Solid start)
    (read : readEntries lone fuel depth start = .ok (entries, after)) :
    readValue lone (fuel + 1) (depth + 1) ('\x7b' :: (margin level ++ start)) =
      .ok (.record (Ledger.putAll [] entries), after) := by
  have spaces := skipSpace_margin level start
  rw [solid.skipSpace_eq] at spaces
  obtain ⟨c, others, rfl, _, _, notClosing⟩ := solid
  simp [readValue, spaces, notClosing, read, bind, Except.bind, pure, Except.pure]

theorem readItems_last {item : Value} (rest : List Char)
    (read : readValue lone fuel depth cs = .ok (item, margin level ++ ']' :: rest)) :
    readItems lone (fuel + 1) depth cs = .ok ([item], rest) := by
  simp [readItems, read, skipSpace_margin, skipSpace_mark, isSpace, bind, Except.bind]

theorem readItems_cons {item : Value} {items : List Value} (solid : Solid start)
    (read : readValue lone fuel depth cs = .ok (item, ',' :: (margin level ++ start)))
    (later : readItems lone fuel depth start = .ok (items, after)) :
    readItems lone (fuel + 1) depth cs = .ok (item :: items, after) := by
  simp [readItems, read, skipSpace_mark, isSpace, skipSpace_margin, solid.skipSpace_eq, later,
    bind, Except.bind, pure, Except.pure]

variable {name : String} {value : Value}

theorem readEntries_last (rest : List Char) (solid : Solid cs)
    (read : readValue lone fuel depth cs = .ok (value, margin level ++ '\x7d' :: rest)) :
    readEntries lone (fuel + 1) depth ((textForm false name).toList ++ ':' :: ' ' :: cs) =
      .ok ([(name, value)], rest) := by
  have space : skipSpace (' ' :: cs) = skipSpace cs := rfl
  rw [toList_textForm, List.cons_append, List.append_assoc, List.singleton_append]
  simp [readEntries, readText_textForm, space, solid.skipSpace_eq, read, skipSpace_mark, isSpace,
    skipSpace_margin, bind, Except.bind]

theorem readEntries_cons {entries : List (String × Value)} (solid : Solid cs)
    (startSolid : Solid start)
    (read : readValue lone fuel depth cs = .ok (value, ',' :: (margin level ++ start)))
    (later : readEntries lone fuel depth start = .ok (entries, after)) :
    readEntries lone (fuel + 1) depth ((textForm false name).toList ++ ':' :: ' ' :: cs) =
      .ok ((name, value) :: entries, after) := by
  have space : skipSpace (' ' :: cs) = skipSpace cs := rfl
  rw [toList_textForm, List.cons_append, List.append_assoc, List.singleton_append]
  simp [readEntries, readText_textForm, space, solid.skipSpace_eq, read, skipSpace_mark, isSpace,
    skipSpace_margin, startSolid.skipSpace_eq, later, bind, Except.bind, pure, Except.pure]

end

/-! ## Documents -/

theorem solid_block (level : Nat) {opening closing : String} {c : Char} {others : List Char}
    (shape : opening.toList = c :: others) (notSpace : isSpace c = false)
    (notClosing : c ≠ ']' ∧ c ≠ '\x7d') (parts : List String) :
    Solid (block level opening closing parts).toList := by
  unfold block
  split
  · simp only [String.toList_append, shape]
    exact ⟨c, _, rfl, notSpace, notClosing⟩
  · simp only [String.toList_append, shape]
    exact ⟨c, _, rfl, notSpace, notClosing⟩

theorem solid_textForm (text : String) : Solid (textForm false text).toList := by
  rw [toList_textForm]
  exact ⟨_, _, rfl, by decide, by decide, by decide⟩

theorem solid_documentAt {depth : Nat} {value : Value} (plain : Plain depth value)
    (level : Nat) : Solid (documentAt level value).toList := by
  cases value with
  | null =>
      rw [documentAt]
      exact ⟨_, _, rfl, by decide, by decide, by decide⟩
  | bool truth =>
      rw [documentAt]
      cases truth with
      | false => exact ⟨_, _, rfl, by decide, by decide, by decide⟩
      | true => exact ⟨_, _, rfl, by decide, by decide, by decide⟩
  | number number =>
      rw [Plain] at plain
      rw [documentAt]
      have read := plain [] ends_nil
      rw [List.append_nil] at read
      obtain ⟨c, others, digit, shape⟩ := head_of_readNumber read
      have differs : ∀ mark : Char, mark.isDigit = false → c ≠ mark :=
        fun mark => ne_of_isDigit digit
      rcases shape with shape | shape
      · refine ⟨c, others, shape, ?_, differs _ (by decide), differs _ (by decide)⟩
        simp [isSpace, differs]
      · exact ⟨_, _, shape, by decide, by decide, by decide⟩
  | text text =>
      rw [documentAt]
      exact solid_textForm text
  | constant c =>
      rw [Plain] at plain
      exact plain.elim
  | list items =>
      rw [documentAt]
      exact solid_block level (c := '[') rfl (by decide) (by decide) _
  | record entries =>
      rw [documentAt]
      exact solid_block level (c := '\x7b') rfl (by decide) (by decide) _

/-- The lines of a list between its brackets. -/
def itemsText (level : Nat) (items : List Value) : List Char :=
  List.intercalate (',' :: margin (level + 1))
    ((documentItems level items).map String.toList)

/-- The lines of a record between its brackets. -/
def entriesText (level : Nat) (entries : List (String × Value)) : List Char :=
  List.intercalate (',' :: margin (level + 1))
    ((documentEntries level entries).map String.toList)

theorem toList_documentAt_nil (level : Nat) :
    (documentAt level (.list [])).toList = ['[', ']'] ∧
      (documentAt level (.record [])).toList = ['\x7b', '\x7d'] := by
  constructor
  · simp [documentAt, documentItems, block]
  · simp [documentAt, documentEntries, block]

def entryText (level : Nat) (name : String) (value : Value) : List Char :=
  (textForm false name).toList ++ ':' :: ' ' :: (documentAt (level + 1) value).toList

theorem itemsText_singleton (level : Nat) (item : Value) :
    itemsText level [item] = (documentAt (level + 1) item).toList := by
  simp [itemsText, documentItems]

theorem itemsText_cons_cons (level : Nat) (item next : Value) (items : List Value) :
    itemsText level (item :: next :: items) = (documentAt (level + 1) item).toList ++
      ',' :: (margin (level + 1) ++ itemsText level (next :: items)) := by
  simp [itemsText, documentItems, List.intercalate]

theorem entriesText_singleton (level : Nat) (name : String) (value : Value) :
    entriesText level [(name, value)] = entryText level name value := by
  simp [entriesText, documentEntries, entryText]

theorem entriesText_cons_cons (level : Nat) (name : String) (value : Value)
    (next : String × Value) (entries : List (String × Value)) :
    entriesText level ((name, value) :: next :: entries) = entryText level name value ++
      ',' :: (margin (level + 1) ++ entriesText level (next :: entries)) := by
  simp [entriesText, documentEntries, entryText, List.intercalate]

theorem solid_itemsText (level : Nat) {depth : Nat} {item : Value} (plain : Plain depth item)
    (items : List Value) : Solid (itemsText level (item :: items)) := by
  have solid := solid_documentAt plain (level + 1)
  cases items with
  | nil => rwa [itemsText_singleton]
  | cons next items =>
      rw [itemsText_cons_cons]
      exact solid.append _

theorem solid_entriesText (level : Nat) (entry : String × Value)
    (entries : List (String × Value)) : Solid (entriesText level (entry :: entries)) := by
  obtain ⟨name, value⟩ := entry
  have solid := (solid_textForm name).append (':' :: ' ' :: (documentAt (level + 1) value).toList)
  cases entries with
  | nil => rwa [entriesText_singleton]
  | cons next entries =>
      rw [entriesText_cons_cons]
      exact solid.append _

theorem toList_documentAt_list (level : Nat) (item : Value) (items : List Value) :
    (documentAt level (.list (item :: items))).toList =
      '[' :: (margin (level + 1) ++
        (itemsText level (item :: items) ++ (margin level ++ [']']))) := by
  have inhabited : documentItems level (item :: items) ≠ [] := by simp [documentItems]
  rw [documentAt, toList_block level _ _ inhabited]
  rfl

theorem toList_documentAt_record (level : Nat) (entry : String × Value)
    (entries : List (String × Value)) :
    (documentAt level (.record (entry :: entries))).toList =
      '\x7b' :: (margin (level + 1) ++
        (entriesText level (entry :: entries) ++ (margin level ++ ['\x7d']))) := by
  have inhabited : documentEntries level (entry :: entries) ≠ [] := by simp [documentEntries]
  rw [documentAt, toList_block level _ _ inhabited]
  rfl

/-- With this fuel, plain values are read from their parts of a document. -/
structure ReadsBack (lone : Bool) (fuel : Nat) : Prop where
  value : ∀ {value : Value} {level depth : Nat} {rest : List Char}, Plain depth value →
    (documentAt level value).toList.length ≤ fuel → Ends rest →
    readValue lone fuel depth ((documentAt level value).toList ++ rest) = .ok (value, rest)
  items : ∀ {items : List Value} {level depth : Nat} (rest : List Char), items ≠ [] →
    PlainItems depth items → (itemsText level items).length + 1 ≤ fuel →
    readItems lone fuel depth (itemsText level items ++ (margin level ++ ']' :: rest)) =
      .ok (items, rest)
  entries : ∀ {entries : List (String × Value)} {level depth : Nat} (rest : List Char),
    entries ≠ [] → PlainEntries depth entries →
    (entriesText level entries).length + 1 ≤ fuel →
    readEntries lone fuel depth
        (entriesText level entries ++ (margin level ++ '\x7d' :: rest)) =
      .ok (entries, rest)

namespace ReadsBack

variable {lone : Bool} {fuel level depth : Nat} {rest : List Char}

theorem readValue_list (back : ReadsBack lone fuel) {items : List Value}
    (plain : Plain depth (.list items))
    (long : (documentAt level (.list items)).toList.length ≤ fuel + 1) :
    readValue lone (fuel + 1) depth ((documentAt level (.list items)).toList ++ rest) =
      .ok (.list items, rest) := by
  cases items with
  | nil =>
      rw [(toList_documentAt_nil level).1]
      rfl
  | cons item items =>
      cases depth with
      | zero => simp [Plain] at plain
      | succ depth =>
          rw [Plain] at plain
          rw [toList_documentAt_list] at long ⊢
          simp only [List.cons_append, List.nil_append, List.append_assoc, List.length_cons,
            List.length_append] at long ⊢
          have solid := solid_itemsText level plain.1 items
          have room : (itemsText level (item :: items)).length + 1 ≤ fuel := by
            simp only [margin, List.length_cons] at long
            omega
          have read := back.items rest (List.cons_ne_nil _ _) plain room
          exact Json.readValue_list (solid.append _) read

theorem readValue_record (back : ReadsBack lone fuel) {entries : List (String × Value)}
    (plain : Plain depth (.record entries))
    (long : (documentAt level (.record entries)).toList.length ≤ fuel + 1) :
    readValue lone (fuel + 1) depth ((documentAt level (.record entries)).toList ++ rest) =
      .ok (.record entries, rest) := by
  cases entries with
  | nil =>
      rw [(toList_documentAt_nil level).2]
      rfl
  | cons entry entries =>
      cases depth with
      | zero => simp [Plain] at plain
      | succ depth =>
          rw [Plain] at plain
          rw [toList_documentAt_record] at long ⊢
          simp only [List.cons_append, List.nil_append, List.append_assoc, List.length_cons,
            List.length_append] at long ⊢
          have solid := solid_entriesText level entry entries
          have room : (entriesText level (entry :: entries)).length + 1 ≤ fuel := by
            simp only [margin, List.length_cons] at long
            omega
          have read := back.entries rest (List.cons_ne_nil _ _) plain.2 room
          have known : Ledger.putAll [] (entry :: entries) = entry :: entries :=
            Ledger.putAll_of_nodup plain.1
          rw [Json.readValue_record (solid.append _) read, known]

theorem readValue_documentAt (back : ReadsBack lone fuel) {value : Value}
    (plain : Plain depth value)
    (long : (documentAt level value).toList.length ≤ fuel + 1) (ends : Ends rest) :
    readValue lone (fuel + 1) depth ((documentAt level value).toList ++ rest) =
      .ok (value, rest) := by
  cases value with
  | null =>
      rw [documentAt]
      rfl
  | bool truth =>
      rw [documentAt]
      cases truth with
      | false => rfl
      | true => rfl
  | number number =>
      rw [Plain] at plain
      rw [documentAt]
      exact readValue_number (plain rest ends)
  | text text =>
      rw [documentAt]
      exact readValue_text text rest
  | constant c =>
      rw [Plain] at plain
      exact plain.elim
  | list items => exact back.readValue_list plain long
  | record entries => exact back.readValue_record plain long

theorem readItems_itemsText (back : ReadsBack lone fuel) {items : List Value}
    (rest : List Char) (inhabited : items ≠ []) (plain : PlainItems depth items)
    (long : (itemsText level items).length ≤ fuel) :
    readItems lone (fuel + 1) depth (itemsText level items ++ (margin level ++ ']' :: rest)) =
      .ok (items, rest) := by
  cases items with
  | nil => exact (inhabited rfl).elim
  | cons item items =>
      rw [PlainItems] at plain
      cases items with
      | nil =>
          rw [itemsText_singleton] at long ⊢
          exact readItems_last rest (back.value plain.1 long (ends_margin level _))
      | cons next items =>
          have solid := solid_itemsText level plain.2.1 items
          rw [itemsText_cons_cons] at long ⊢
          simp only [List.length_append, List.length_cons] at long
          simp only [List.append_assoc, List.cons_append]
          have room : (documentAt (level + 1) item).toList.length ≤ fuel := by omega
          have left : (itemsText level (next :: items)).length + 1 ≤ fuel := by omega
          have others := back.items rest (List.cons_ne_nil _ _) plain.2 left
          exact readItems_cons (solid.append _) (back.value plain.1 room (ends_comma _)) others

theorem readEntries_entriesText (back : ReadsBack lone fuel) {entries : List (String × Value)}
    (rest : List Char) (inhabited : entries ≠ []) (plain : PlainEntries depth entries)
    (long : (entriesText level entries).length ≤ fuel) :
    readEntries lone (fuel + 1) depth
        (entriesText level entries ++ (margin level ++ '\x7d' :: rest)) =
      .ok (entries, rest) := by
  cases entries with
  | nil => exact (inhabited rfl).elim
  | cons entry entries =>
      obtain ⟨name, value⟩ := entry
      rw [PlainEntries] at plain
      have solid := solid_documentAt plain.1 (level + 1)
      cases entries with
      | nil =>
          rw [entriesText_singleton, entryText] at long ⊢
          simp only [List.length_append, List.length_cons] at long
          simp only [List.append_assoc, List.cons_append]
          have room : (documentAt (level + 1) value).toList.length ≤ fuel := by omega
          have read := back.value plain.1 room (ends_margin level ('\x7d' :: rest))
          exact readEntries_last rest (solid.append _) read
      | cons next entries =>
          have laterSolid := solid_entriesText level next entries
          rw [entriesText_cons_cons, entryText] at long ⊢
          simp only [List.length_append, List.length_cons] at long
          simp only [List.append_assoc, List.cons_append]
          have room : (documentAt (level + 1) value).toList.length ≤ fuel := by omega
          have left : (entriesText level (next :: entries)).length + 1 ≤ fuel := by omega
          have others := back.entries rest (List.cons_ne_nil _ _) plain.2 left
          exact readEntries_cons (solid.append _) (laterSolid.append _)
            (back.value plain.1 room (ends_comma _)) others

end ReadsBack

/-- Fuel for every character of the part is enough. -/
theorem readsBack (lone : Bool) (fuel : Nat) : ReadsBack lone fuel := by
  -- The reader's functions call each other with one unit less, so the induction is on the
  -- fuel and not on the value; with none left there is no text, for no part is empty.
  induction fuel with
  | zero =>
      constructor
      · intro value level depth rest plain long
        obtain ⟨c, others, shape, _⟩ := solid_documentAt plain level
        simp [shape] at long
      · intro items level depth rest _ _ long
        omega
      · intro entries level depth rest _ _ long
        omega
  | succ fuel back =>
      constructor
      · exact back.readValue_documentAt
      · intro items level depth rest inhabited plain long
        exact back.readItems_itemsText rest inhabited plain (by omega)
      · intro entries level depth rest inhabited plain long
        exact back.readEntries_entriesText rest inhabited plain (by omega)

/-- The document of a value is read as this value. -/
def IsKept (value : Value) : Prop :=
  Json.read (document value) .stored = .ok value

theorem isKept_of_plain {value : Value} (plain : Plain Tolerance.stored.depth value) :
    IsKept value := by
  have solid := solid_documentAt plain 0
  have room : (documentAt 0 value).toList.length ≤ 2 * (documentAt 0 value).toList.length + 2 := by
    omega
  have read := (readsBack Tolerance.stored.loneSurrogates _).value plain room ends_nil
  rw [List.append_nil] at read
  have whole : readDocument Tolerance.stored (documentAt 0 value).toList = .ok value := by
    rw [readDocument, solid.skipSpace_eq, read]
    rfl
  rw [IsKept, document, Json.read]
  simp only [whole]

end StageGraph.Json
