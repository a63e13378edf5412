import StageGraph.Proofs.Json.Documents

/-!
# Texts of numbers

The text of a number is made of digits, signs, points and exponent marks, and so
is all that the reader takes for a number.  Therefore a reader who has begun with
the text of a number never goes beyond it.
-/

namespace StageGraph.Json

/-- A character of the texts of numbers. -/
def isNumeral (c : Char) : Bool :=
  c.isDigit || c = '-' || c = '+' || c = '.' || c = 'e' || c = 'E'

theorem isNumeral_of_isDigit {c : Char} (digit : c.isDigit = true) : isNumeral c = true := by
  simp [isNumeral, digit]

theorem not_isSpace_of_isNumeral {c : Char} (numeral : isNumeral c = true) :
    isSpace c = false := by
  cases space : isSpace c with
  | false => rfl
  | true =>
      simp only [isSpace, Bool.or_eq_true, decide_eq_true_eq] at space
      rcases space with ((rfl | rfl) | rfl) | rfl <;> simp [isNumeral] at numeral

/-- Only characters of numbers stand before the rest. -/
def PassesTo (cs rest : List Char) : Prop :=
  ∃ passed, cs = passed ++ rest ∧ ∀ c ∈ passed, isNumeral c = true

namespace PassesTo

variable {cs middle rest : List Char}

theorem refl (cs : List Char) : PassesTo cs cs :=
  ⟨[], rfl, fun _ member => (List.not_mem_nil member).elim⟩

theorem trans (first : PassesTo cs middle) (second : PassesTo middle rest) :
    PassesTo cs rest := by
  obtain ⟨front, rfl, frontNumeral⟩ := first
  obtain ⟨back, rfl, backNumeral⟩ := second
  refine ⟨front ++ back, (List.append_assoc ..).symm, ?_⟩
  intro c member
  rcases List.mem_append.mp member with member | member
  · exact frontNumeral c member
  · exact backNumeral c member

theorem cons {c : Char} (numeral : isNumeral c = true) (passes : PassesTo cs rest) :
    PassesTo (c :: cs) rest := by
  obtain ⟨passed, rfl, numerals⟩ := passes
  exact ⟨c :: passed, rfl, List.forall_mem_cons.mpr ⟨numeral, numerals⟩⟩

theorem dropWhile_isDigit (cs : List Char) : PassesTo cs (cs.dropWhile Char.isDigit) := by
  refine ⟨cs.takeWhile Char.isDigit, List.takeWhile_append_dropWhile.symm, ?_⟩
  intro c member
  exact isNumeral_of_isDigit (List.mem_takeWhile_imp member)

/-- What is left of a numeral and of what follows it, after numerals were passed, is
followed by the same. -/
theorem of_append {text after : List Char} (passes : PassesTo (text ++ rest) after)
    (numerals : ∀ c ∈ text, isNumeral c = true) (ends : Ends rest) :
    PassesTo after rest := by
  obtain ⟨passed, same, passedNumerals⟩ := passes
  rcases List.append_eq_append_iff.mp same with ⟨surplus, rfl, rfl⟩ | ⟨left, rfl, rfl⟩
  · cases surplus with
    | nil => exact refl _
    | cons c surplus =>
        have numeral := passedNumerals c (by simp)
        rcases ends c rfl with rfl | rfl <;> simp [isNumeral] at numeral
  · exact ⟨left, rfl, fun c member => numerals c (List.mem_append_right _ member)⟩

/-- Where a mark comes next that no number holds, nothing of a number is left. -/
theorem eq_of_skipSpace {after more : List Char} {mark : Char} (passes : PassesTo after rest)
    (next : skipSpace after = mark :: more) (notNumeral : isNumeral mark = false) :
    after = rest := by
  obtain ⟨passed, rfl, numerals⟩ := passes
  cases passed with
  | nil => rfl
  | cons c passed =>
      have numeral := numerals c List.mem_cons_self
      rw [List.cons_append, skipSpace_mark (not_isSpace_of_isNumeral numeral)] at next
      obtain ⟨rfl, _⟩ := List.cons.inj next
      rw [notNumeral] at numeral
      cases numeral

end PassesTo

/-! ## Reading -/

variable {cs rest : List Char}

theorem passesTo_of_sign {negative : Bool}
    (sign : (match cs with
      | '-' :: more => (true, more)
      | '+' :: more => (false, more)
      | more => (false, more)) = (negative, rest)) : PassesTo cs rest := by
  split at sign
  · obtain ⟨_, rfl⟩ := Prod.mk.inj sign
    exact (PassesTo.refl _).cons rfl
  · obtain ⟨_, rfl⟩ := Prod.mk.inj sign
    exact (PassesTo.refl _).cons rfl
  · obtain ⟨_, rfl⟩ := Prod.mk.inj sign
    exact PassesTo.refl _

theorem passesTo_of_readExponent? {power : Int} (read : readExponent? cs = some (power, rest)) :
    PassesTo cs rest := by
  unfold readExponent? at read
  split at read
  on_goal 3 => cases read
  -- Both marks of an exponent are followed by the same.
  all_goals
    refine PassesTo.cons rfl ?_
    split at read
    rename_i negative unsigned sign
    dsimp only at read
    split at read
    · cases read
    · obtain ⟨_, rfl⟩ := Prod.mk.inj (Option.some.inj read)
      exact (passesTo_of_sign sign).trans (PassesTo.dropWhile_isDigit unsigned)

theorem passesTo_of_readFraction? {digits : List Char}
    (read : readFraction? cs = some (digits, rest)) : PassesTo cs rest := by
  unfold readFraction? at read
  split at read
  · dsimp only at read
    split at read
    · cases read
    · obtain ⟨_, rfl⟩ := Prod.mk.inj (Option.some.inj read)
      exact (PassesTo.dropWhile_isDigit _).cons rfl
  · cases read

theorem passesTo_readWhole (cs : List Char) : PassesTo cs (readWhole cs).2 := by
  unfold readWhole
  split
  · exact (PassesTo.refl _).cons rfl
  · exact PassesTo.dropWhile_isDigit cs

/-- The reader passes only characters of numbers on the way through a number. -/
theorem passesTo_of_readNumber {number : Number} (read : readNumber cs = .ok (number, rest)) :
    PassesTo cs rest := by
  unfold readNumber at read
  split at read
  rename_i negative unsigned sign
  have start : PassesTo cs unsigned := by
    split at sign
    · obtain ⟨_, rfl⟩ := Prod.mk.inj sign
      exact (PassesTo.refl _).cons rfl
    · obtain ⟨_, rfl⟩ := Prod.mk.inj sign
      exact PassesTo.refl _
  have whole := start.trans (passesTo_readWhole unsigned)
  have fraction : PassesTo (readWhole unsigned).2
      ((readFraction? (readWhole unsigned).2).getD ([], (readWhole unsigned).2)).2 := by
    cases found : readFraction? (readWhole unsigned).2 with
    | none => exact PassesTo.refl _
    | some pair => exact passesTo_of_readFraction? found
  dsimp only at read
  split at read
  · cases read
  · split at read
    · rename_i exponent
      obtain ⟨_, rfl⟩ := Prod.mk.inj (Except.ok.inj read)
      exact (whole.trans fraction).trans (passesTo_of_readExponent? exponent)
    · split at read
      · obtain ⟨_, rfl⟩ := Prod.mk.inj (Except.ok.inj read)
        exact whole.trans fraction
      · split at read
        · cases read
        · obtain ⟨_, rfl⟩ := Prod.mk.inj (Except.ok.inj read)
          exact whole

/-! ## Writing -/

theorem isNumeral_of_mem_toDigits {number : Nat} {c : Char}
    (member : c ∈ Nat.toDigits 10 number) : isNumeral c = true :=
  isNumeral_of_isDigit (Nat.isDigit_of_mem_toDigits (by decide) (by decide) member)

theorem isNumeral_of_mem_zeros {count : Nat} {c : Char}
    (member : c ∈ List.replicate count '0') : isNumeral c = true := by
  rw [(List.mem_replicate.mp member).2]
  rfl

theorem isNumeral_of_mem_exponent {width : Nat} {power : Int} {c : Char}
    (member : c ∈ ((if power < 0 then "e-" else "e+") ++
      String.ofList (List.replicate (width - (Nat.toDigits 10 power.natAbs).length) '0' ++
        Nat.toDigits 10 power.natAbs)).toList) : isNumeral c = true := by
  rw [String.toList_append, String.toList_ofList] at member
  rcases List.mem_append.mp member with mark | digits
  · have marks : ∀ c, c ∈ "e-".toList ∨ c ∈ "e+".toList → isNumeral c = true := by
      intro c either
      simp only [String.reduceToList, List.mem_cons, List.not_mem_nil, or_false] at either
      rcases either with (rfl | rfl) | (rfl | rfl) <;> rfl
    split at mark
    · exact marks c (.inl mark)
    · exact marks c (.inr mark)
  · rcases List.mem_append.mp digits with zero | digit
    · exact isNumeral_of_mem_zeros zero
    · exact isNumeral_of_mem_toDigits digit

theorem isNumeral_of_mem_write {layout : Layout} {decimal : Decimal} {c : Char}
    (member : c ∈ (layout.write decimal).toList) : isNumeral c = true := by
  have digit : c ∈ Nat.toDigits 10 decimal.digits → isNumeral c = true :=
    isNumeral_of_mem_toDigits
  unfold Layout.write at member
  dsimp only at member
  split at member
  · split at member
    · rw [String.toList_ofList] at member
      rcases List.mem_cons.mp member with rfl | member
      · rfl
      · rcases List.mem_cons.mp member with rfl | member
        · rfl
        · exact (List.mem_append.mp member).elim isNumeral_of_mem_zeros digit
    · split at member
      · rw [String.toList_append, String.toList_ofList] at member
        rcases List.mem_append.mp member with whole | point
        · exact (List.mem_append.mp whole).elim digit isNumeral_of_mem_zeros
        · split at point
          · simp only [String.reduceToList, List.mem_cons, List.not_mem_nil, or_false] at point
            rcases point with rfl | rfl <;> rfl
          · cases point
      · rw [String.toList_ofList] at member
        rcases List.mem_append.mp member with whole | member
        · exact digit (List.mem_of_mem_take whole)
        · rcases List.mem_cons.mp member with rfl | fraction
          · rfl
          · exact digit (List.mem_of_mem_drop fraction)
  · rw [String.toList_append] at member
    rcases List.mem_append.mp member with mantissa | exponent
    · rw [String.toList_ofList] at mantissa
      split at mantissa
      · cases mantissa
      · rename_i shape
        exact digit (shape ▸ mantissa)
      · rename_i shape
        rw [shape] at digit
        rcases List.mem_cons.mp mantissa with rfl | mantissa
        · exact digit List.mem_cons_self
        · rcases List.mem_cons.mp mantissa with rfl | mantissa
          · rfl
          · exact digit (List.mem_cons_of_mem _ mantissa)
    · exact isNumeral_of_mem_exponent exponent

theorem toList_write_ne_nil (layout : Layout) (decimal : Decimal) :
    (layout.write decimal).toList ≠ [] := by
  unfold Layout.write
  dsimp only
  split
  · split
    · simp
    · split <;> simp
  · split
    · rename_i shape
      exact (Nat.toDigits_ne_nil shape).elim
    · simp
    · simp

/-- The text of a number is null, or made of characters of numbers. -/
theorem numberForm_cases (layout : Layout) (number : Number) :
    numberForm layout number = "null" ∨
      (numberForm layout number).toList ≠ [] ∧
        ∀ c ∈ (numberForm layout number).toList, isNumeral c = true := by
  have signed : ∀ (negative : Bool) (text : String), text.toList ≠ [] →
      (∀ c ∈ text.toList, isNumeral c = true) →
      (if negative then "-" ++ text else text).toList ≠ [] ∧
        ∀ c ∈ (if negative then "-" ++ text else text).toList, isNumeral c = true := by
    intro negative text inhabited numerals
    cases negative with
    | false => exact ⟨inhabited, numerals⟩
    | true =>
        have shape : ("-" ++ text).toList = '-' :: text.toList := by simp
        rw [if_pos rfl, shape]
        exact ⟨List.cons_ne_nil _ _, List.forall_mem_cons.mpr ⟨rfl, numerals⟩⟩
  cases number with
  | integer number =>
      right
      rw [numberForm, toList_toString]
      split
      · refine ⟨List.cons_ne_nil _ _, List.forall_mem_cons.mpr ⟨rfl, ?_⟩⟩
        exact fun c => isNumeral_of_mem_toDigits
      · exact ⟨Nat.toDigits_ne_nil, fun c => isNumeral_of_mem_toDigits⟩
  | real x =>
      cases x with
      | nan => exact .inl rfl
      | infinity negative => exact .inl rfl
      | finite negative mantissa exponent =>
          right
          apply signed
          · split
            · simp
            · exact toList_write_ne_nil layout _
          · split
            · simp [isNumeral]
            · exact fun c => isNumeral_of_mem_write

end StageGraph.Json
