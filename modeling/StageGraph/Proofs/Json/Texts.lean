import Mathlib.Data.List.Basic
import StageGraph.Json.Printer
import StageGraph.Json.Reader

/-!
# Texts in documents

A text is written between quotes, character by character, and read back unit by
unit.  No character is a surrogate, so every unit that is read is a character of
the text, and none is joined with its neighbour.
-/

namespace StageGraph.Json

open Text.Quoted (hexDigit hexDigits hexValue?)

/-! ## Units -/

theorem hexValue?_hexDigit {digit : Nat} (small : digit < 16) :
    hexValue? (hexDigit digit) = some digit := by
  have all : ∀ digit < 16, hexValue? (hexDigit digit) = some digit := by decide
  exact all digit small

theorem exists_hexDigits {code : Nat} (small : code < 0x10000) :
    ∃ a b c d, hexDigits 4 code = [a, b, c, d] ∧ hexCode? a b c d = some code := by
  refine ⟨_, _, _, _, rfl, ?_⟩
  simp only [hexCode?, hexValue?_hexDigit (Nat.mod_lt _ (by decide : 0 < 16)), bind,
    Option.bind_some, pure]
  congr 1
  omega

variable {start rest after : List Char} {units : List Nat}

theorem readUnits_plain {c : Char} (notQuote : c ≠ '\x22') (notEscape : c ≠ '\\')
    (notControl : ¬ c.toNat < 32) (read : readUnits start rest = .ok (units, after)) :
    readUnits start (c :: rest) = .ok (c.toNat :: units, after) := by
  rw [readUnits.eq_def]
  split
  · cases ‹c :: rest = []›
  · exact absurd (List.cons.inj ‹_›).1 notQuote
  · exact absurd (List.cons.inj ‹_›).1 notEscape
  · exact absurd (List.cons.inj ‹_›).1 notEscape
  · exact absurd (List.cons.inj ‹_›).1 notEscape
  · exact absurd (List.cons.inj ‹_›).1 notEscape
  · rename_i same
    obtain ⟨rfl, rfl⟩ := List.cons.inj same
    rw [if_neg notControl, read]
    rfl

theorem readUnits_letter {letter : Char} {code : Nat} (notUnit : letter ≠ 'u')
    (named : escapeCode? letter = some code) (read : readUnits start rest = .ok (units, after)) :
    readUnits start ('\\' :: letter :: rest) = .ok (code :: units, after) := by
  rw [readUnits.eq_def]
  split
  · rename_i nothing
    cases nothing
  · rename_i quote
    cases quote
  · rename_i escape
    cases escape
  · exact absurd (List.cons.inj (List.cons.inj ‹_›).2).1 notUnit
  · exact absurd (List.cons.inj (List.cons.inj ‹_›).2).1 notUnit
  · rename_i same
    obtain ⟨_, same⟩ := List.cons.inj same
    obtain ⟨rfl, rfl⟩ := List.cons.inj same
    rw [named, read]
    rfl
  · rename_i noLetter same
    obtain ⟨rfl, rfl⟩ := List.cons.inj same
    exact (noLetter letter rest rfl rfl).elim

/-- A character named by its code is read by it, as something follows. -/
theorem readUnits_unitEscape {code : Nat} (small : code < 0x10000)
    (read : readUnits start rest = .ok (units, after)) :
    readUnits start (unitEscape code ++ rest) = .ok (code :: units, after) := by
  obtain ⟨a, b, c, d, digits, named⟩ := exists_hexDigits small
  cases rest with
  | nil => cases read
  | cons next rest =>
      rw [unitEscape, digits]
      simp only [List.cons_append, List.nil_append]
      rw [readUnits.eq_def]
      simp only [named, read]
      rfl

/-- Every form of a character is read as its code. -/
theorem readUnits_escapeChar (c : Char) (read : readUnits start rest = .ok (units, after)) :
    readUnits start (escapeChar false c ++ rest) = .ok (c.toNat :: units, after) := by
  -- The seven characters that are named by a letter.
  by_cases letter : c = '\x22' ∨ c = '\\' ∨ c = '\n' ∨ c = '\r' ∨ c = '\t' ∨
      c = '\x08' ∨ c = '\x0c'
  · rcases letter with rfl | rfl | rfl | rfl | rfl | rfl | rfl <;>
      exact readUnits_letter (by decide) rfl read
  · simp only [not_or] at letter
    obtain ⟨notQuote, notEscape, notFeed, notReturn, notTab, notBack, notForm⟩ := letter
    have notEight : c.toNat ≠ 8 := fun same => notBack (Char.toNat_inj.mp same)
    have notTwelve : c.toNat ≠ 12 := fun same => notForm (Char.toNat_inj.mp same)
    rw [escapeChar, if_neg notQuote, if_neg notEscape, if_neg notFeed, if_neg notReturn,
      if_neg notTab, if_neg notEight, if_neg notTwelve]
    by_cases control : c.toNat < 32
    · rw [if_pos control]
      exact readUnits_unitEscape (Nat.lt_trans control (by decide)) read
    · rw [if_neg control]
      exact readUnits_plain notQuote notEscape control read

theorem readUnits_flatMap_escapeChar (cs : List Char) :
    readUnits start (cs.flatMap (escapeChar false) ++ '\x22' :: rest) =
      .ok (cs.map Char.toNat, rest) := by
  induction cs with
  | nil => rfl
  | cons c cs induction =>
      rw [List.flatMap_cons, List.append_assoc]
      exact readUnits_escapeChar c induction

/-! ## Characters -/

theorem not_isHigh_toNat (c : Char) : isHigh c.toNat = false := by
  have valid : c.toNat < 0xD800 ∨ 0xDFFF < c.toNat ∧ c.toNat < 0x110000 := c.valid
  simp only [isHigh, Bool.and_eq_false_iff, decide_eq_false_iff_not]
  omega

theorem not_isLow_toNat (c : Char) : isLow c.toNat = false := by
  have valid : c.toNat < 0xD800 ∨ 0xDFFF < c.toNat ∧ c.toNat < 0x110000 := c.valid
  simp only [isLow, Bool.and_eq_false_iff, decide_eq_false_iff_not]
  omega

theorem joinUnits_cons {unit : Nat} (notHigh : isHigh unit = false)
    (notLow : isLow unit = false) (units : List Nat) :
    joinUnits (unit :: units) = Char.ofNat unit :: joinUnits units := by
  cases units <;>
    simp only [joinUnits, notHigh, notLow, Bool.false_and, Bool.or_self, Bool.false_eq_true,
      if_false]

theorem joinUnits_map_toNat (cs : List Char) : joinUnits (cs.map Char.toNat) = cs := by
  induction cs with
  | nil => rfl
  | cons c rest induction =>
      rw [List.map_cons, joinUnits_cons (not_isHigh_toNat c) (not_isLow_toNat c), induction,
        Char.ofNat_toNat]

theorem arePaired_cons {unit : Nat} (notHigh : isHigh unit = false)
    (notLow : isLow unit = false) (units : List Nat) :
    arePaired (unit :: units) = arePaired units := by
  cases units <;>
    simp only [arePaired, notHigh, notLow, Bool.false_and, Bool.or_self, Bool.not_false,
      Bool.true_and, Bool.false_eq_true, if_false]

theorem arePaired_map_toNat (cs : List Char) : arePaired (cs.map Char.toNat) = true := by
  induction cs with
  | nil => rfl
  | cons c rest induction =>
      rw [List.map_cons, arePaired_cons (not_isHigh_toNat c) (not_isLow_toNat c), induction]

/-- What stands between quotes is read as the text. -/
theorem readText_textForm (lone : Bool) (text : String) (rest : List Char) :
    readText lone (text.toList.flatMap (escapeChar false) ++ '\x22' :: rest) =
      .ok (text, rest) := by
  rw [readText, readUnits_flatMap_escapeChar]
  simp only [bind, Except.bind, joinUnits_map_toNat, arePaired_map_toNat, Bool.or_true,
    if_true, String.ofList_toList]
  rfl

theorem toList_textForm (text : String) :
    (textForm false text).toList =
      '\x22' :: (text.toList.flatMap (escapeChar false) ++ ['\x22']) := by
  simp [textForm]

end StageGraph.Json
