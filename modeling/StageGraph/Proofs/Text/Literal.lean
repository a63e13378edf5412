import StageGraph.Proofs.Json.Texts
import StageGraph.Proofs.Text.Pieces
import StageGraph.Proofs.Text.Quoted
import StageGraph.Text.Literal
import StageGraph.Value

/-!
# A literal is read as what it was written for

The quote that encloses a text stands inside it only behind a backslash, and so does the
backslash itself.  Each character is therefore one piece of the literal, and the piece is read
as that character whatever follows.  A list is read text by text, as no text of it reads on
beyond its closing quote.
-/

namespace StageGraph.Text.Literal

open Quoted (hexDigit hexDigits escape delimiter encode)

/-! ## Digits -/

/-- The digits are read from the front; `more` of them are still to come. -/
theorem hexEscape?_hexDigits (width more number code : Nat) (rest : List Char) :
    hexEscape? (width + more) code (hexDigits width number ++ rest) =
      hexEscape? more (code * 16 ^ width + number % 16 ^ width) rest := by
  induction width generalizing more number rest with
  | zero => simp [hexDigits, Nat.mod_one]
  | succ width induction =>
      have last : number % 16 < 16 := Nat.mod_lt _ (by decide)
      have value : (code * 16 ^ width + number / 16 % 16 ^ width) * 16 + number % 16 =
          code * 16 ^ (width + 1) + number % 16 ^ (width + 1) := by
        rw [Nat.pow_succ', Nat.mod_mul, Nat.mul_left_comm code 16]
        omega
      have order : width + 1 + more = width + (more + 1) := by
        omega
      rw [hexDigits, List.append_assoc, List.singleton_append, order, induction, hexEscape?,
        Json.hexValue?_hexDigit last]
      simp only [bind, Option.bind_some, value]

/-- A character is read from enough digits of its code. -/
theorem hexEscape?_toNat (width : Nat) {c : Char} (fits : c.toNat < 16 ^ width)
    (rest : List Char) :
    hexEscape? width 0 (hexDigits width c.toNat ++ rest) = some (c, rest) := by
  have valid : c.toNat.isValidChar := c.valid
  have read := hexEscape?_hexDigits width 0 c.toNat 0 rest
  rw [Nat.add_zero, Nat.zero_mul, Nat.zero_add, Nat.mod_eq_of_lt fits] at read
  rw [read, hexEscape?, if_pos valid, Char.ofNat_toNat]

/-! ## Pieces -/

variable {quote : Char}

theorem readPiece?_escape (encloses : quote = '\x27' ∨ quote = '\x22') (c : Char)
    (rest : List Char) : readPiece? (escape quote c ++ rest) = some ([c], rest) := by
  rw [escape]
  split
  · rename_i special
    rw [Bool.or_eq_true, decide_eq_true_eq, decide_eq_true_eq] at special
    have named : named? c = some c := by
      rcases special with rfl | rfl
      · rcases encloses with rfl | rfl <;> rfl
      · rfl
    simp only [List.cons_append, List.nil_append, readPiece?, readEscape?, named, if_true]
  rename_i plain
  rw [Bool.or_eq_true, decide_eq_true_eq, decide_eq_true_eq, not_or] at plain
  split
  · rename_i feed
    rw [feed]
    rfl
  split
  · rename_i back
    rw [back]
    rfl
  split
  · rename_i tab
    rw [tab]
    rfl
  rename_i notFeed notReturn _
  split
  · rename_i printable
    -- A character that is shown as itself is not the one that ends every source.
    have notNull : c ≠ '\x00' := by
      rintro rfl
      exact absurd printable (by decide)
    simp [readPiece?, plain.2, notFeed, notReturn, notNull]
  split
  · rename_i small
    have read := hexEscape?_toNat 2 small rest
    simp [readPiece?, readEscape?, named?, read]
  split
  · rename_i small
    have read := hexEscape?_toNat 4 small rest
    simp [readPiece?, readEscape?, named?, read]
  · have valid : c.toNat < 0xD800 ∨ 0xDFFF < c.toNat ∧ c.toNat < 0x110000 := c.valid
    have small : c.toNat < 16 ^ 8 := by
      omega
    have read := hexEscape?_toNat 8 small rest
    simp [readPiece?, readEscape?, named?, read]

/-- What stands for a character does not begin with the enclosing quote. -/
theorem exists_escape_eq_cons (encloses : quote = '\x27' ∨ quote = '\x22') (c : Char) :
    ∃ first more, escape quote c = first :: more ∧ first ≠ quote := by
  have outer : '\\' ≠ quote := by
    rcases encloses with rfl | rfl <;> decide
  rw [escape]
  split
  · exact ⟨_, _, rfl, outer⟩
  rename_i plain
  rw [Bool.or_eq_true, decide_eq_true_eq, not_or] at plain
  split
  · exact ⟨_, _, rfl, outer⟩
  split
  · exact ⟨_, _, rfl, outer⟩
  split
  · exact ⟨_, _, rfl, outer⟩
  split
  · exact ⟨_, _, rfl, plain.1⟩
  split
  · exact ⟨_, _, rfl, outer⟩
  split
  · exact ⟨_, _, rfl, outer⟩
  · exact ⟨_, _, rfl, outer⟩

theorem length_le_length_flatMap_escape (encloses : quote = '\x27' ∨ quote = '\x22')
    (cs : List Char) : cs.length ≤ (cs.flatMap (escape quote)).length := by
  induction cs with
  | nil => exact Nat.le_refl _
  | cons c cs induction =>
      obtain ⟨first, more, spelled, -⟩ := exists_escape_eq_cons encloses c
      rw [List.flatMap_cons, List.length_append, spelled, List.length_cons, List.length_cons]
      omega

/-! ## Texts -/

theorem readBody?_flatMap_escape (encloses : quote = '\x27' ∨ quote = '\x22')
    (cs rest : List Char) {fuel : Nat} (enough : cs.length < fuel) :
    readBody? quote fuel (cs.flatMap (escape quote) ++ quote :: rest) = some (cs, rest) := by
  induction cs generalizing fuel with
  | nil =>
      obtain ⟨fuel, rfl⟩ := Nat.exists_eq_add_one_of_ne_zero (Nat.ne_of_gt enough)
      simp [readBody?]
  | cons c cs induction =>
      obtain ⟨fuel, rfl⟩ := Nat.exists_eq_add_one_of_ne_zero (Nat.ne_zero_of_lt enough)
      have read := induction (Nat.lt_of_succ_lt_succ enough)
      obtain ⟨first, more, spelled, inside⟩ := exists_escape_eq_cons encloses c
      have piece := readPiece?_escape encloses c (cs.flatMap (escape quote) ++ quote :: rest)
      rw [spelled, List.cons_append] at piece
      rw [List.flatMap_cons, List.append_assoc, spelled, List.cons_append, readBody?,
        if_neg inside, piece]
      simp only [bind, Option.bind_some, read, List.singleton_append]

theorem delimiter_encloses (cs : List Char) :
    delimiter cs = '\x27' ∨ delimiter cs = '\x22' := by
  rw [delimiter]
  split
  · exact .inr rfl
  · exact .inl rfl

theorem readText?_encode (cs rest : List Char) :
    readText? (encode cs ++ rest) = some (cs, rest) := by
  have encloses := delimiter_encloses cs
  have long := length_le_length_flatMap_escape encloses cs
  have opens : (decide (delimiter cs = '\x27') || decide (delimiter cs = '\x22')) = true := by
    rwa [Bool.or_eq_true, decide_eq_true_eq, decide_eq_true_eq]
  rw [encode, List.cons_append, List.cons_append, List.append_assoc, List.singleton_append,
    readText?, if_pos opens]
  apply readBody?_flatMap_escape encloses
  rw [List.length_append]
  omega

/-- The literal of a text is read as the text. -/
theorem text?_quote (text : String) :
    text? (Quoted.quote text).toList = some text.toList := by
  have read := readText?_encode text.toList []
  rw [List.append_nil] at read
  rw [Quoted.quote, String.toList_ofList, text?, read]

/-! ## Lists -/

theorem exists_encode_eq_cons (cs : List Char) :
    ∃ more, encode cs = delimiter cs :: more ∧ isGap (delimiter cs) = false ∧
      delimiter cs ≠ ']' := by
  refine ⟨_, rfl, ?_⟩
  rcases delimiter_encloses cs with same | same <;> rw [same] <;> decide

@[simp]
theorem skipGap_encode (cs rest : List Char) :
    skipGap (encode cs ++ rest) = encode cs ++ rest := by
  obtain ⟨more, opened, solid, -⟩ := exists_encode_eq_cons cs
  rw [opened, List.cons_append, skipGap, List.dropWhile_cons_of_neg (by simp [solid])]

/-- The texts of a list, as they stand between its brackets. -/
def spelled (texts : List (List Char)) : List Char :=
  List.intercalate [',', ' '] (texts.map encode)

theorem spelled_cons_cons (text next : List Char) (rest : List (List Char)) :
    spelled (text :: next :: rest) = encode text ++ ',' :: ' ' :: spelled (next :: rest) := by
  simp [spelled, List.intercalate]

theorem exists_spelled_cons (text : List Char) (rest : List (List Char)) :
    ∃ more, spelled (text :: rest) = encode text ++ more := by
  cases rest with
  | nil => exact ⟨[], by simp [spelled, List.intercalate]⟩
  | cons next rest => exact ⟨_, spelled_cons_cons text next rest⟩

theorem readItems?_spelled (text : List Char) (texts : List (List Char)) (rest : List Char)
    {fuel : Nat} (enough : texts.length < fuel) :
    readItems? fuel (spelled (text :: texts) ++ ']' :: rest) = some (text :: texts, rest) := by
  induction texts generalizing text fuel with
  | nil =>
      obtain ⟨fuel, rfl⟩ := Nat.exists_eq_add_one_of_ne_zero (Nat.ne_zero_of_lt enough)
      have single : spelled [text] = encode text := by
        simp [spelled, List.intercalate]
      rw [single, readItems?, readText?_encode]
      rfl
  | cons next texts induction =>
      obtain ⟨fuel, rfl⟩ := Nat.exists_eq_add_one_of_ne_zero (Nat.ne_zero_of_lt enough)
      have read := induction next (Nat.lt_of_succ_lt_succ enough)
      obtain ⟨more, begun⟩ := exists_spelled_cons next texts
      obtain ⟨inner, opened, -, inside⟩ := exists_encode_eq_cons next
      have skipped : skipGap (' ' :: (spelled (next :: texts) ++ ']' :: rest)) =
          spelled (next :: texts) ++ ']' :: rest := by
        rw [skipGap, List.dropWhile_cons_of_pos rfl, begun, List.append_assoc]
        exact skipGap_encode _ _
      rw [spelled_cons_cons, List.append_assoc, readItems?, readText?_encode]
      simp only [bind, Option.bind_some, List.cons_append]
      have comma : skipGap (',' :: ' ' :: (spelled (next :: texts) ++ ']' :: rest)) =
          ',' :: ' ' :: (spelled (next :: texts) ++ ']' :: rest) := rfl
      rw [comma]
      simp only [skipped]
      split
      · rename_i closed
        rw [begun, opened] at closed
        exact absurd (List.cons.inj closed).1 inside
      · simp only [read, Option.bind_some]

theorem unbroken_spelled (texts : List (List Char)) : Unbroken (spelled texts) := by
  induction texts with
  | nil => exact unbroken_iff_any.mpr rfl
  | cons text texts induction =>
      have first : Unbroken (encode text) := by
        have quoted := Quoted.unbroken_quote (String.ofList text)
        rwa [Quoted.quote, String.toList_ofList, String.toList_ofList] at quoted
      cases texts with
      | nil => simpa [spelled, List.intercalate] using first
      | cons next texts =>
          have comma : Unbroken [',', ' '] := unbroken_iff_any.mpr (by decide)
          rw [spelled_cons_cons]
          exact first.append (comma.append induction)

theorem length_le_length_spelled (texts : List (List Char)) :
    texts.length ≤ (spelled texts).length := by
  induction texts with
  | nil => exact Nat.le_refl _
  | cons text texts induction =>
      obtain ⟨more, opened, -⟩ := exists_encode_eq_cons text
      cases texts with
      | nil => simp [spelled, opened]
      | cons next texts =>
          rw [spelled_cons_cons]
          simp only [List.length_append, List.length_cons] at induction ⊢
          omega

theorem readList?_spelled (texts : List (List Char)) (rest : List Char) :
    readList? ('[' :: (spelled texts ++ ']' :: rest)) = some (texts, rest) := by
  cases texts with
  | nil => rfl
  | cons text texts =>
      have long := length_le_length_spelled (text :: texts)
      obtain ⟨more, begun⟩ := exists_spelled_cons text texts
      obtain ⟨inner, opened, -, inside⟩ := exists_encode_eq_cons text
      have skipped : skipGap (spelled (text :: texts) ++ ']' :: rest) =
          spelled (text :: texts) ++ ']' :: rest := by
        rw [begun, List.append_assoc]
        exact skipGap_encode _ _
      rw [readList?, skipped]
      split
      · rename_i closed
        rw [begun, opened] at closed
        exact absurd (List.cons.inj closed).1 inside
      · apply readItems?_spelled
        rw [List.length_append]
        rw [List.length_cons] at long
        omega

end StageGraph.Text.Literal

namespace StageGraph.Value

open Text (Unbroken)

theorem quotedAll_texts (texts : List String) :
    quotedAll (texts.map .text) = texts.map Text.Quoted.quote := by
  induction texts with
  | nil => rfl
  | cons text texts induction => rw [List.map_cons, quotedAll, induction]; rfl

theorem toList_literal_texts (texts : List String) :
    (Value.list (texts.map .text)).literal.toList =
      '[' :: (Text.Literal.spelled (texts.map String.toList) ++ [']']) := by
  have quoted : (texts.map Text.Quoted.quote).map String.toList =
      (texts.map String.toList).map Text.Quoted.encode := by
    simp [Text.Quoted.quote]
  have spelling : (Value.list (texts.map .text)).literal =
      "[" ++ Text.join ", " (texts.map Text.Quoted.quote) ++ "]" := by
    rw [← quotedAll_texts]
    rfl
  rw [spelling, String.toList_append, String.toList_append, Text.toList_join, quoted]
  rfl

/-- The literal of a list of texts is read as the texts. -/
theorem list?_literal_texts (texts : List String) :
    Text.Literal.list? (Value.list (texts.map .text)).literal.toList =
      some (texts.map String.toList) := by
  rw [toList_literal_texts, Text.Literal.list?, Text.Literal.readList?_spelled]

/-- The literal of a list of texts is one line. -/
theorem unbroken_literal_texts (texts : List String) :
    Unbroken (Value.list (texts.map .text)).literal.toList := by
  have inside : Unbroken (Text.Literal.spelled (texts.map String.toList)) :=
    Text.Literal.unbroken_spelled _
  have opening : Unbroken ['['] := Text.unbroken_iff_any.mpr (by decide)
  have closing : Unbroken [']'] := Text.unbroken_iff_any.mpr (by decide)
  rw [toList_literal_texts, ← List.singleton_append]
  exact opening.append (inside.append closing)

end StageGraph.Value
