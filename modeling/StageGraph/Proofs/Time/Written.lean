import Mathlib.Data.List.TakeWhile
import StageGraph.Proofs.Time.Calendar
import StageGraph.Time.Reader
import StageGraph.Time.Text

/-!
# Written times are read back

The text of a moment of the calendar is read as the moment's own fields, with no
offset, whether there is a fraction of a second or not.
-/

namespace StageGraph

namespace WrittenTime

open Civil

/-! ## Digits -/

theorem digitsValue_eq (digits : List Char) :
    digitsValue digits = Nat.ofDigitChars 10 digits 0 := by
  have step : (fun value (c : Char) => value * 10 + (c.toNat - 48)) =
      fun value c => 10 * value + (c.toNat - '0'.toNat) := by
    funext value c
    rw [Nat.mul_comm]
    rfl
  rw [digitsValue, step, Nat.ofDigitChars_eq_foldl]

theorem toList_padded (width number : Nat) :
    (padded width number).toList =
      List.replicate (width - (Nat.toDigits 10 number).length) '0' ++
        Nat.toDigits 10 number :=
  String.toList_ofList

theorem digitsValue_padded (width number : Nat) :
    digitsValue (padded width number).toList = number := by
  rw [digitsValue_eq, toList_padded, Nat.ofDigitChars_append,
    Nat.ofDigitChars_replicate_zero, Nat.mul_zero, Nat.ofDigitChars_ten_toDigits]

theorem isDigit_of_mem_padded {width number : Nat} {c : Char}
    (member : c ∈ (padded width number).toList) : c.isDigit = true := by
  rw [toList_padded] at member
  rcases List.mem_append.mp member with zero | digit
  · rw [(List.mem_replicate.mp zero).2]
    decide
  · exact Nat.isDigit_of_mem_toDigits (by decide) (by decide) digit

variable {width number : Nat}

theorem length_padded (positive : 0 < width) (fits : number < 10 ^ width) :
    (padded width number).toList.length = width := by
  have short := (Nat.length_toDigits_le_iff (by decide) positive).mpr fits
  rw [toList_padded, List.length_append, List.length_replicate]
  omega

/-- A padded number is read back, whatever follows it. -/
theorem digits?_padded (positive : 0 < width) (fits : number < 10 ^ width)
    (rest : List Char) :
    digits? width ((padded width number).toList ++ rest) = some (number, rest) := by
  have length := length_padded positive fits
  have digits : ((padded width number).toList ++ rest).take width =
      (padded width number).toList := List.take_left' length
  have others : ((padded width number).toList ++ rest).drop width = rest :=
    List.drop_left' length
  have allDigits : (padded width number).toList.all Char.isDigit = true :=
    List.all_eq_true.mpr fun c member => isDigit_of_mem_padded member
  rw [digits?, digits, others, digitsValue_padded]
  exact if_pos ⟨length, allDigits⟩

/-! ## Dates and clocks -/

theorem daysInMonth_le (year month : Nat) : daysInMonth year month ≤ 31 := by
  unfold daysInMonth
  split
  · exact Nat.zero_le 31
  · cases found : (monthLengths year)[month - 1]? with
    | none => exact Nat.zero_le 31
    | some length =>
        have member := List.mem_of_getElem? found
        simp only [monthLengths, List.mem_cons, List.not_mem_nil, or_false] at member
        rw [Option.getD_some]
        split at member <;> omega

theorem month_of_daysInMonth_pos {year month : Nat} (days : 0 < daysInMonth year month) :
    month ≠ 0 ∧ month ≤ 12 := by
  unfold daysInMonth at days
  split at days
  · cases days
  · rename_i positive
    refine ⟨positive, ?_⟩
    apply Nat.le_of_not_lt
    intro beyond
    have none : (monthLengths year)[month - 1]? = none := by
      apply List.getElem?_eq_none
      simp only [monthLengths, List.length_cons, List.length_nil]
      omega
    simp [none] at days

theorem date_dateText {civil : Civil} (proper : civil.Proper) (rest : List Char) :
    date (civil.dateText.toList ++ rest) =
      .ok ({ year := civil.year, month := civil.month, day := civil.day }, rest) := by
  have isDate := proper.date
  simp only [Civil.isDate, Bool.and_eq_true, decide_eq_true_eq] at isDate
  obtain ⟨⟨⟨_, yearFits⟩, dayPositive⟩, dayFits⟩ := isDate
  have daysFit := daysInMonth_le civil.year civil.month
  obtain ⟨monthPositive, monthFits⟩ :=
    month_of_daysInMonth_pos (Nat.lt_of_lt_of_le dayPositive dayFits)
  have year : civil.year < 10 ^ 4 := by omega
  have month : civil.month < 10 ^ 2 := by omega
  have day : civil.day < 10 ^ 2 := by omega
  have layout : civil.dateText.toList ++ rest =
      (padded 4 civil.year).toList ++ ('-' :: ((padded 2 civil.month).toList ++
        ('-' :: ((padded 2 civil.day).toList ++ rest)))) := by
    simp [dateText]
  have long : ¬ (civil.dateText.toList ++ rest).length < 10 := by
    simp only [layout, List.length_append, List.length_cons, length_padded (by decide) year,
      length_padded (by decide) month, length_padded (by decide) day]
    omega
  rw [date, if_neg long, layout, digits?_padded (by decide) year]
  simp only [orFault, char?, digits?_padded (by decide) month, digits?_padded (by decide) day,
    bind, Except.bind, pure, Except.pure, if_true]
  rw [if_neg (by omega), if_neg (by omega)]

theorem fractionValue_padded (fits : number < 10 ^ 6) :
    fractionValue (padded 6 number).toList = number := by
  have length := length_padded (by decide) fits
  rw [fractionValue, List.take_left' length, digitsValue_padded]

/-- A fraction is read up to the first character that is no digit. -/
theorem fraction?_fractionText {civil : Civil} (proper : civil.Proper) :
    fraction? (civil.fractionText.toList ++ ['Z']) = some (civil.micro, ['Z']) := by
  unfold fractionText
  by_cases whole : civil.micro = 0
  · rw [if_pos whole, whole]
    rfl
  · have fits : civil.micro < 10 ^ 6 := proper.micro
    have micro := length_padded (by decide) fits
    have digits : ∀ c ∈ (padded 6 civil.micro).toList, c.isDigit = true :=
      fun c member => isDigit_of_mem_padded member
    have taken : ((padded 6 civil.micro).toList ++ ['Z']).takeWhile Char.isDigit =
        (padded 6 civil.micro).toList := by
      rw [List.takeWhile_append_of_pos digits]
      simp [List.takeWhile]
    have left : ((padded 6 civil.micro).toList ++ ['Z']).dropWhile Char.isDigit = ['Z'] := by
      rw [List.dropWhile_append_of_pos digits]
      rfl
    have inhabited : (padded 6 civil.micro).toList.isEmpty = false := by
      rw [List.isEmpty_eq_false_iff, ← List.length_pos_iff, micro]
      decide
    have layout : ("." ++ padded 6 civil.micro).toList ++ ['Z'] =
        '.' :: ((padded 6 civil.micro).toList ++ ['Z']) := by
      simp
    rw [if_neg whole, layout]
    simp only [fraction?, taken, left, inhabited, fractionValue_padded fits]
    rfl

theorem seconds?_text {civil : Civil} (proper : civil.Proper) :
    seconds? (':' :: ((padded 2 civil.second).toList ++
      (civil.fractionText.toList ++ ['Z']))) = some (civil.second, civil.micro, ['Z']) := by
  have fits : civil.second < 10 ^ 2 := Nat.lt_trans proper.second (by decide)
  simp only [seconds?, digits?_padded (by decide) fits, fraction?_fractionText proper,
    bind, Option.bind_some]
  exact if_pos proper.second

/-- The form in documents is read as the same fields, with no offset. -/
theorem dateAndClock?_text {civil : Civil} (proper : civil.Proper) :
    dateAndClock? (civil.isoText ++ "Z").toList = some { civil := civil, offset := some 0 } := by
  have hour : civil.hour < 10 ^ 2 := Nat.lt_trans proper.hour (by decide)
  have minute : civil.minute < 10 ^ 2 := Nat.lt_trans proper.minute (by decide)
  have layout : (civil.isoText ++ "Z").toList = civil.dateText.toList ++
      ('T' :: ((padded 2 civil.hour).toList ++ (':' :: ((padded 2 civil.minute).toList ++
        (':' :: ((padded 2 civil.second).toList ++
          (civil.fractionText.toList ++ ['Z']))))))) := by
    simp [isoText, clockText]
  rw [dateAndClock?, layout, date_dateText proper]
  simp only [Except.toOption, bind, Option.bind_some, decide_true, Bool.true_or, if_true,
    digits?_padded (by decide) hour, char?, digits?_padded (by decide) minute,
    seconds?_text proper, zone?]
  rw [if_pos ⟨proper.hour, proper.minute⟩]

/-! ## Texts of ASCII characters -/

theorem toList_loop (octets : ByteArray) (place : Nat) (found : List UInt8) :
    ByteArray.toList.loop octets place found =
      found.reverse ++ octets.data.toList.drop place := by
  fun_induction ByteArray.toList.loop octets place found with
  | case1 place found within induction =>
      have inside : place < octets.data.toList.length := within
      have head : octets.get! place = octets.data.toList[place] :=
        getElem!_pos octets.data place inside
      rw [induction, List.drop_eq_getElem_cons inside, head]
      simp
  | case2 place found beyond =>
      have outside : octets.data.toList.length ≤ place := Nat.le_of_not_lt beyond
      rw [List.drop_eq_nil_of_le outside, List.append_nil]

theorem toList_toUTF8 (text : String) :
    text.toUTF8.toList = text.toList.flatMap String.utf8EncodeChar := by
  rw [String.toUTF8, ← String.utf8Encode_toList, ByteArray.toList, toList_loop]
  simp [List.utf8Encode, List.data_toByteArray]

/-- All characters of a text are ASCII characters. -/
def IsAscii (text : String) : Prop :=
  ∀ c ∈ text.toList, c.toNat < 128

theorem bytes_eq_toList {text : String} (ascii : IsAscii text) :
    bytes text = text.toList := by
  rw [bytes, toList_toUTF8]
  unfold IsAscii at ascii
  generalize text.toList = cs at ascii
  induction cs with
  | nil => rfl
  | cons c rest induction =>
      obtain ⟨small, restAscii⟩ := List.forall_mem_cons.mp ascii
      have single : String.utf8EncodeChar c = [UInt8.ofNat c.toNat] :=
        if_pos (Nat.le_of_lt_succ small)
      have octet : Char.ofNat (UInt8.ofNat c.toNat).toNat = c := by
        have fits : c.toNat % 2 ^ 8 = c.toNat := Nat.mod_eq_of_lt (by omega)
        rw [UInt8.toNat_ofNat', fits, Char.ofNat_toNat]
      rw [List.flatMap_cons, List.map_append, single, induction restAscii, List.map_singleton,
        octet, List.singleton_append]

theorem IsAscii.append {left right : String} (leftAscii : IsAscii left)
    (rightAscii : IsAscii right) : IsAscii (left ++ right) := by
  intro c member
  rw [String.toList_append] at member
  rcases List.mem_append.mp member with inLeft | inRight
  · exact leftAscii c inLeft
  · exact rightAscii c inRight

theorem isAscii_singleton {c : Char} (small : c.toNat < 128) : IsAscii (String.singleton c) := by
  intro other member
  rw [String.toList_singleton, List.mem_singleton] at member
  rwa [member]

theorem isAscii_padded (width number : Nat) : IsAscii (padded width number) := by
  intro c member
  have digit := isDigit_of_mem_padded member
  simp only [Char.isDigit, Bool.and_eq_true, decide_eq_true_eq] at digit
  exact Nat.lt_of_le_of_lt (UInt32.le_iff_toNat_le.mp digit.2) (by decide)

theorem isAscii_fractionText (civil : Civil) : IsAscii civil.fractionText := by
  unfold fractionText
  split
  · intro c member
    cases member
  · exact (isAscii_singleton (c := '.') (by decide)).append (isAscii_padded 6 civil.micro)

theorem isAscii_text (civil : Civil) : IsAscii (civil.isoText ++ "Z") := by
  have hyphen : IsAscii "-" := isAscii_singleton (c := '-') (by decide)
  have colon : IsAscii ":" := isAscii_singleton (c := ':') (by decide)
  have mark : IsAscii "T" := isAscii_singleton (c := 'T') (by decide)
  have zone : IsAscii "Z" := isAscii_singleton (c := 'Z') (by decide)
  have date : IsAscii civil.dateText :=
    ((((isAscii_padded 4 civil.year).append hyphen).append
      (isAscii_padded 2 civil.month)).append hyphen).append (isAscii_padded 2 civil.day)
  have clock : IsAscii civil.clockText :=
    ((((isAscii_padded 2 civil.hour).append colon).append
      (isAscii_padded 2 civil.minute)).append colon).append (isAscii_padded 2 civil.second)
  exact (((date.append mark).append clock).append (isAscii_fractionText civil)).append zone

end WrittenTime

namespace Moment

theorem read_text {moment : Moment} (inCalendar : moment.micros < limit) :
    (WrittenTime.read (.text moment.text)).map WrittenTime.moment? = .ok (some moment) := by
  have proper := proper_civil inCalendar
  have spelled : WrittenTime.spelled (.text moment.text) =
      .ok { civil := moment.civil, offset := some 0 } := by
    simp only [WrittenTime.spelled, Value.asText?, WrittenTime.ofText, text,
      WrittenTime.bytes_eq_toList (WrittenTime.isAscii_text moment.civil),
      WrittenTime.dateAndClock?_text proper]
  have year : moment.civil.year ≠ 0 := by
    have isDate := proper.date
    simp only [Civil.isDate, Bool.and_eq_true, decide_eq_true_eq] at isDate
    omega
  rw [WrittenTime.read, spelled]
  simp only [year, if_false]
  exact congrArg Except.ok (ofCivil?_civil inCalendar)

end Moment

end StageGraph
