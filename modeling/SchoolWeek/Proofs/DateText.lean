import Mathlib
import SchoolWeek.Date.Timestamp

/-! Writing a date or a time stamp and reading it again gives back what was
written. The text of a date is therefore a key: no two dates share it. A reader
takes digits off the front of a text, so the laws below hold with any text after
the digits that could not be taken for one more digit. -/
namespace SchoolWeek

namespace Text

theorem isDigit_of_mem_padded {character : Char} {width number : Nat}
    (member : character ∈ padded width number) : character.isDigit = true := by
  rcases List.mem_append.mp member with zero | digit
  · rw [List.eq_of_mem_replicate zero]
    decide
  · exact isDigit_of_mem_decimal digit

theorem padded_ne_nil (width number : Nat) : padded width number ≠ [] :=
  List.append_ne_nil_of_right_ne_nil _ (decimal_ne_nil number)

theorem ofDigits_padded (width number : Nat) : ofDigits (padded width number) = number := by
  have leading : Nat.ofDigitChars 10 (List.replicate (width - (decimal number).length) '0') 0 =
      10 ^ (width - (decimal number).length) * 0 := Nat.ofDigitChars_replicate_zero
  rw [ofDigits, padded, Nat.ofDigitChars_append, leading, Nat.mul_zero]
  exact ofDigits_decimal number

/-- A number that fits is written with exactly the width asked for. -/
theorem length_padded {width number : Nat} (positive : 0 < width) (fits : number < 10 ^ width) :
    (padded width number).length = width := by
  have short : (decimal number).length ≤ width :=
    (Nat.length_toDigits_le_iff (by decide) positive).mpr fits
  simp only [padded, List.length_append, List.length_replicate]
  omega

theorem isBlank_of_isDigit {character : Char} (digit : character.isDigit = true) :
    isBlank character = false := by
  simp only [Char.isDigit, Bool.and_eq_true, decide_eq_true_eq, UInt32.le_iff_toNat_le] at digit
  simp only [isBlank, Char.toNat, Bool.or_eq_false_iff, Bool.and_eq_false_iff,
    decide_eq_false_iff_not, beq_eq_false_iff_ne]
  have low : 48 ≤ character.val.toNat := digit.1
  have high : character.val.toNat ≤ 57 := digit.2
  omega

theorem trimStart_cons {character : Char} {rest : List Char}
    (visible : isBlank character = false) :
    trimStart (character :: rest) = character :: rest := by
  simp [trimStart, visible]

theorem trimStart_padded (width number : Nat) (rest : List Char) :
    trimStart (padded width number ++ rest) = padded width number ++ rest := by
  have digits : ∀ character ∈ padded width number, character.isDigit = true :=
    fun _ member => isDigit_of_mem_padded member
  cases written : padded width number with
  | nil => exact (padded_ne_nil width number written).elim
  | cons first others =>
    rw [written] at digits
    exact trimStart_cons (isBlank_of_isDigit (digits first (by simp)))

end Text

namespace Scan
open Text

/-- The reader takes all digits that were written, if the text after them could
not be taken for one more. -/
theorem digits_append {limit : Nat} {written rest : List Char} (some : written ≠ [])
    (isDigit : ∀ character ∈ written, character.isDigit = true) (fits : written.length ≤ limit)
    (ended : (rest.take (limit - written.length)).takeWhile Char.isDigit = []) :
    digits limit (written ++ rest) = .ok (ofDigits written, rest) := by
  have run : ((written ++ rest).take limit).takeWhile Char.isDigit = written := by
    rw [List.take_append, List.take_of_length_le fits, List.takeWhile_append_of_pos isDigit, ended,
      List.append_nil]
  cases written with
  | nil => exact (some rfl).elim
  | cons first others =>
    rw [List.cons_append] at run ⊢
    rw [digits, run]
    · simp
    · exact List.cons_ne_nil _ _

theorem digits_padded {width number : Nat} {rest : List Char} (positive : 0 < width)
    (fits : number < 10 ^ width) :
    digits width (padded width number ++ rest) = .ok (number, rest) := by
  have width_eq := length_padded positive fits
  have taken : digits width (padded width number ++ rest) = _ :=
    digits_append (padded_ne_nil width number) (fun _ member => isDigit_of_mem_padded member)
      width_eq.le (by simp [width_eq])
  rwa [ofDigits_padded] at taken

/-- A two-digit number in its bounds is read back, whatever follows it. -/
theorem number_padded {low high value : Nat} (rest : List Char)
    (bounds : low ≤ value ∧ value ≤ high) (fits : value < 100) :
    number 2 low high (padded 2 value ++ rest) = .ok (value, rest) := by
  rw [number, trimStart_padded, digits_padded (by decide) (by omega)]
  simp only
  rw [if_pos bounds]

theorem separator_cons {relaxed : Bool} {expected : Char} {rest : List Char}
    (visible : isBlank expected = false) :
    separator relaxed expected (expected :: rest) = .ok ((), rest) := by
  cases relaxed <;> simp [separator, character, trimStart_cons visible]

/-- A signed year may have any number of digits; the hyphen after it ends them. -/
theorem digits_before_hyphen (number : Nat) (rest : List Char) :
    digits (padded 4 number ++ '-' :: rest).length (padded 4 number ++ '-' :: rest) =
      .ok (number, '-' :: rest) := by
  have fits : (padded 4 number).length ≤ (padded 4 number ++ '-' :: rest).length := by simp
  have ended (limit : Nat) : (('-' :: rest).take limit).takeWhile Char.isDigit = [] := by
    cases limit <;> simp
  have taken := digits_append (padded_ne_nil 4 number)
    (fun _ member => isDigit_of_mem_padded member) fits (ended _)
  rwa [ofDigits_padded] at taken

theorem year_unsigned {value : Nat} {rest : List Char} (fits : value < 10000) :
    year (padded 4 value ++ rest) = .ok ((value : Int), rest) := by
  have digit : ∀ character ∈ padded 4 value, character.isDigit = true :=
    fun _ member => isDigit_of_mem_padded member
  have read : digits 4 (padded 4 value ++ rest) = .ok (value, rest) :=
    digits_padded (by decide) (by omega)
  rw [year, trimStart_padded]
  cases written : padded 4 value with
  | nil => exact (padded_ne_nil 4 value written).elim
  | cons first others =>
    rw [written] at digit read
    have plus : first ≠ '+' := by
      rintro rfl
      exact absurd (digit '+' (by simp)) (by decide)
    have minus : first ≠ '-' := by
      rintro rfl
      exact absurd (digit '-' (by simp)) (by decide)
    rw [List.cons_append] at read ⊢
    dsimp only
    split
    · rename_i same
      exact (plus (List.cons.inj same).1).elim
    · rename_i same
      exact (minus (List.cons.inj same).1).elim
    · rw [read]

theorem year_yearText {value : Int} (bounds : Date.firstYear ≤ value ∧ value ≤ Date.lastYear)
    (rest : List Char) :
    year (Date.yearText value ++ '-' :: rest) = .ok (value, '-' :: rest) := by
  have low : -262143 ≤ value := bounds.1
  have high : value ≤ 262142 := bounds.2
  by_cases plain : 0 ≤ value ∧ value ≤ 9999
  · rw [Date.yearText, if_pos plain, year_unsigned (by omega), Int.toNat_of_nonneg plain.1]
  · rw [Date.yearText, if_neg plain, List.cons_append]
    by_cases negative : value < 0
    · have size : (-1 : Int) * value.natAbs = value := by omega
      rw [if_pos negative, year, trimStart_cons (by decide)]
      simp only [digits_before_hyphen, size]
      rw [if_pos (by omega)]
    · have size : (1 : Int) * value.natAbs = value := by omega
      rw [if_neg negative, year, trimStart_cons (by decide)]
      simp only [digits_before_hyphen, size]
      rw [if_pos (by omega)]

/-- The three numbers of a written date are read off the front of any text. -/
theorem date_toChars (relaxed : Bool) (written : Date) (rest : List Char) :
    date relaxed (written.toChars ++ rest) =
      .ok ((written.year, written.month, written.day), rest) := by
  obtain ⟨value, month, day, first, last, janStart, decEnd, dayStart, dayEnd⟩ := written
  have length : day ≤ 31 := by
    refine dayEnd.trans ?_
    unfold Date.daysInMonth
    split_ifs <;> omega
  have readYear := year_yearText ⟨first, last⟩
    (padded 2 month ++ '-' :: (padded 2 day ++ rest))
  have readMonth := number_padded ('-' :: (padded 2 day ++ rest)) ⟨janStart, decEnd⟩ (by omega)
  have readDay := number_padded rest ⟨dayStart, length⟩ (by omega)
  have hyphen (tail : List Char) : separator relaxed '-' ('-' :: tail) = .ok ((), tail) :=
    separator_cons (by decide)
  simp only [Date.toChars, List.append_assoc, List.cons_append, date, bind, Except.bind, readYear,
    hyphen, readMonth, readDay, pure, Except.pure]

end Scan

namespace Date

theorem readWith_toChars (relaxed : Bool) (date : Date) : readWith relaxed date.toChars = .ok date := by
  have read := Scan.date_toChars relaxed date []
  rw [List.append_nil] at read
  have ended : Scan.finish relaxed [] = .ok () := by cases relaxed <;> rfl
  simp only [readWith, bind, Except.bind, read, ended, of?_self]
  rfl

/-- Every date is read back from its text. -/
theorem read_text (date : Date) : read date.text = .ok date := by
  rw [read, text, String.toList_ofList]
  exact readWith_toChars false date

theorem text_injective : Function.Injective text := by
  intro left right same
  have read := read_text left
  rw [same, read_text right] at read
  cases read
  rfl

@[simp]
theorem text_inj {left right : Date} : left.text = right.text ↔ left = right :=
  text_injective.eq_iff

end Date

namespace Scan
open Text

theorem nanoseconds_padded {width value : Nat} (positive : 0 < width) (atMost : width ≤ 9)
    (fits : value < 10 ^ width) :
    nanoseconds (padded width value) = .ok (value * 10 ^ (9 - width), []) := by
  have width_eq := length_padded positive fits
  have taken : digits 9 (padded width value ++ []) = _ :=
    digits_append (padded_ne_nil width value) (fun _ member => isDigit_of_mem_padded member)
      (by omega) (by simp)
  rw [List.append_nil, ofDigits_padded] at taken
  rw [nanoseconds, taken]
  simp [width_eq]

/-- The fraction of a second shows all of it. -/
theorem fraction_fractionText {nanosecond : Nat} (small : nanosecond < 1000000000) :
    fraction (TimeOfDay.fractionText nanosecond) = .ok (nanosecond, []) := by
  unfold TimeOfDay.fractionText
  split_ifs with none millis micros
  · rw [none]
    rfl
  · rw [fraction, nanoseconds_padded (by decide) (by decide) (by omega)]
    have whole : nanosecond / 1000000 * 10 ^ (9 - 3) = nanosecond := by omega
    rw [whole]
  · rw [fraction, nanoseconds_padded (by decide) (by decide) (by omega)]
    have whole : nanosecond / 1000 * 10 ^ (9 - 6) = nanosecond := by omega
    rw [whole]
  · rw [fraction, nanoseconds_padded (by decide) (by decide) (by omega)]
    simp

end Scan

namespace Timestamp
open Text

/-- A time stamp is read back from its text, a fraction of a second in a relaxed reading only. -/
theorem readWith_toChars {relaxed : Bool} {stamp : Timestamp}
    (seen : relaxed = true ∨ stamp.time.nanosecond = 0) :
    readWith relaxed stamp.toChars = .ok stamp := by
  obtain ⟨date, hour, minute, second, nanosecond, real⟩ := stamp
  have colon (tail : List Char) : Scan.separator relaxed ':' (':' :: tail) = .ok ((), tail) :=
    Scan.separator_cons (by decide)
  have letter (tail : List Char) : Scan.separator relaxed 'T' ('T' :: tail) = .ok ((), tail) :=
    Scan.separator_cons (by decide)
  have readDate (rest : List Char) : Scan.date relaxed (date.toChars ++ rest) =
      .ok ((date.year, date.month, date.day), rest) := Scan.date_toChars relaxed date rest
  have readHour (rest : List Char) : Scan.number 2 0 23 (padded 2 hour ++ rest) = .ok (hour, rest) :=
    Scan.number_padded rest (by omega) (by omega)
  have readMinute (rest : List Char) :
      Scan.number 2 0 59 (padded 2 minute ++ rest) = .ok (minute, rest) :=
    Scan.number_padded rest (by omega) (by omega)
  have readSecond (rest : List Char) :
      Scan.number 2 0 60 (padded 2 second ++ rest) = .ok (second, rest) :=
    Scan.number_padded rest (by omega) (by omega)
  have time : TimeOfDay.of? hour minute second nanosecond =
      some ⟨hour, minute, second, nanosecond, real⟩ := dif_pos real
  have ended : Scan.finish relaxed [] = .ok () := by cases relaxed <;> rfl
  simp only [toChars, TimeOfDay.toChars, List.append_assoc, List.cons_append, readWith, bind,
    Except.bind, readDate, letter, readHour, colon, readMinute, readSecond, Date.of?_self, pure,
    Except.pure]
  cases relaxed with
  | true => simp only [↓reduceIte, Scan.fraction_fractionText real.2.2.2, ended, time]
  | false =>
    obtain rfl : nanosecond = 0 := by simpa using seen
    have noFraction : TimeOfDay.fractionText 0 = [] := rfl
    simp only [Bool.false_eq_true, ↓reduceIte, noFraction, ended, time]

/-- A time stamp to whole seconds is read back from its text. -/
theorem read_text {stamp : Timestamp} (whole : stamp.time.nanosecond = 0) :
    read stamp.text = .ok stamp := by
  rw [read, text, String.toList_ofList]
  exact readWith_toChars (.inr whole)

theorem readRelaxed_text (stamp : Timestamp) : readRelaxed stamp.text = .ok stamp := by
  rw [readRelaxed, text, String.toList_ofList]
  exact readWith_toChars (.inl rfl)

end Timestamp
end SchoolWeek
