import Mathlib
import SchoolWeek.Backend.Tables
import SchoolWeek.Proofs.DateText

/-! Two orders of dates: that of the calendar and that of their texts. Numbers
that are written with the same width compare as their texts do, so the orders
agree on the dates whose years have four digits and no sign. A sign sorts before
every digit, which is where the orders part. -/
namespace SchoolWeek

namespace Text

private theorem ofDigits_cons (first : Char) (rest : List Char) :
    ofDigits (first :: rest) = 10 ^ rest.length * (first.toNat - '0'.toNat) + ofDigits rest := by
  rw [ofDigits, Nat.ofDigitChars_cons, Nat.ofDigitChars_eq_ofDigitChars_zero, Nat.mul_zero,
    Nat.zero_add, ofDigits]

private theorem digit_bounds {character : Char} (digit : character.isDigit = true) :
    '0'.toNat ≤ character.toNat ∧ character.toNat ≤ '0'.toNat + 9 := by
  simpa [Char.isDigit, UInt32.le_iff_toNat_le] using digit

private theorem ofDigits_lt {written : List Char}
    (digits : ∀ character ∈ written, character.isDigit = true) :
    ofDigits written < 10 ^ written.length := by
  induction written with
  | nil => simp [ofDigits]
  | cons first rest ih =>
    have small := ih fun character member => digits character (by simp [member])
    have bounds := digit_bounds (digits first (by simp))
    have scaled : 10 ^ rest.length * (first.toNat - '0'.toNat) ≤ 10 ^ rest.length * 9 :=
      Nat.mul_le_mul_left _ (by omega)
    rw [ofDigits_cons, List.length_cons, Nat.pow_succ]
    omega

/-- Of two rows of digits of one length, the smaller number comes first. -/
theorem digits_lt_iff {left right leftRest rightRest : List Char}
    (leftDigits : ∀ character ∈ left, character.isDigit = true)
    (rightDigits : ∀ character ∈ right, character.isDigit = true)
    (sameLength : left.length = right.length) :
    left ++ leftRest < right ++ rightRest ↔
      ofDigits left < ofDigits right ∨ ofDigits left = ofDigits right ∧ leftRest < rightRest := by
  induction left generalizing right with
  | nil =>
    obtain rfl : right = [] := List.length_eq_zero_iff.mp sameLength.symm
    simp
  | cons first rest ih =>
    cases right with
    | nil => cases sameLength
    | cons other others =>
      have tail : rest ++ leftRest < others ++ rightRest ↔ _ :=
        ih (fun character member => leftDigits character (by simp [member]))
          (fun character member => rightDigits character (by simp [member]))
          (by simpa using sameLength)
      have leftSmall := ofDigits_lt fun character member =>
        leftDigits character (List.mem_cons_of_mem first member)
      have rightSmall := ofDigits_lt fun character member =>
        rightDigits character (List.mem_cons_of_mem other member)
      have length : rest.length = others.length := by simpa using sameLength
      have leftBounds := digit_bounds (leftDigits first (by simp))
      have rightBounds := digit_bounds (rightDigits other (by simp))
      have value : first < other ↔ first.toNat < other.toNat := by
        rw [Char.lt_def, UInt32.lt_iff_toNat_lt, Char.toNat, Char.toNat]
      rw [List.cons_append, List.cons_append, List.cons_lt_cons_iff, tail, ofDigits_cons,
        ofDigits_cons, length, value]
      rw [length] at leftSmall
      -- The first digits decide unless they are equal, as the rest of either stays below one unit.
      rcases Nat.lt_trichotomy first.toNat other.toNat with less | equal | greater
      · have scaled : 10 ^ others.length * (first.toNat - '0'.toNat) + 10 ^ others.length ≤
            10 ^ others.length * (other.toNat - '0'.toNat) := by
          rw [← Nat.mul_succ]
          exact Nat.mul_le_mul_left _ (by omega)
        simp only [less, true_or, true_iff]
        omega
      · have same : first = other := Char.toNat_inj.mp equal
        subst same
        simp
      · have scaled : 10 ^ others.length * (other.toNat - '0'.toNat) + 10 ^ others.length ≤
            10 ^ others.length * (first.toNat - '0'.toNat) := by
          rw [← Nat.mul_succ]
          exact Nat.mul_le_mul_left _ (by omega)
        have different : first ≠ other := by
          rintro rfl
          omega
        simp only [Nat.not_lt.mpr greater.le, different, false_and, or_false, false_iff]
        omega

/-- Numbers written with the same width come in their own order. -/
theorem padded_lt_iff {width left right : Nat} {leftRest rightRest : List Char}
    (positive : 0 < width) (leftFits : left < 10 ^ width) (rightFits : right < 10 ^ width) :
    padded width left ++ leftRest < padded width right ++ rightRest ↔
      left < right ∨ left = right ∧ leftRest < rightRest := by
  have compared : padded width left ++ leftRest < padded width right ++ rightRest ↔ _ :=
    digits_lt_iff (fun _ member => isDigit_of_mem_padded member)
      (fun _ member => isDigit_of_mem_padded member)
      ((length_padded positive leftFits).trans (length_padded positive rightFits).symm)
  rwa [ofDigits_padded, ofDigits_padded] at compared

end Text

namespace Date

theorem not_before_self (date : Date) : ¬ date.Before date := by
  unfold Before
  omega

theorem Before.trans {first second third : Date} (early : first.Before second)
    (late : second.Before third) : first.Before third := by
  unfold Before at *
  omega

theorem Before.asymm {left right : Date} (before : left.Before right) : ¬ right.Before left :=
  fun after => not_before_self left (before.trans after)

theorem before_or_eq_or_after (left right : Date) :
    left.Before right ∨ left = right ∨ right.Before left := by
  unfold Before
  by_cases same : left.year = right.year ∧ left.month = right.month ∧ left.day = right.day
  · exact .inr (.inl (ext_fields same.1 same.2.1 same.2.2))
  · omega

theorem day_le_31 (date : Date) : date.day ≤ 31 := by
  refine date.real.2.2.2.2.2.trans ?_
  unfold daysInMonth
  split_ifs <;> omega

/-- The years that are written with four digits and no sign. -/
def HasPlainYear (date : Date) : Prop := 0 ≤ date.year ∧ date.year ≤ 9999

instance (date : Date) : Decidable date.HasPlainYear :=
  inferInstanceAs (Decidable (0 ≤ date.year ∧ date.year ≤ 9999))

/-- On plain years the order of the texts is that of the dates. -/
theorem text_lt_iff {left right : Date} (leftPlain : left.HasPlainYear)
    (rightPlain : right.HasPlainYear) : left.text < right.text ↔ left.Before right := by
  have month : left.month < 100 ∧ right.month < 100 := by
    have := left.real.2.2.2.1
    have := right.real.2.2.2.1
    omega
  have leftDay := left.day_le_31
  have rightDay := right.day_le_31
  have hyphen (rest other : List Char) : '-' :: rest < '-' :: other ↔ rest < other := by
    simp
  have dayOrder : Text.padded 2 left.day ++ [] < Text.padded 2 right.day ++ [] ↔ _ :=
    Text.padded_lt_iff (by decide) (by omega) (by omega)
  simp only [List.append_nil] at dayOrder
  have leftYear := leftPlain
  have rightYear := rightPlain
  unfold HasPlainYear at leftYear rightYear
  rw [String.lt_iff_toList_lt, text, text, String.toList_ofList, String.toList_ofList, toChars,
    toChars, yearText, yearText, if_pos leftYear, if_pos rightYear]
  simp only [List.append_assoc, List.cons_append]
  rw [Text.padded_lt_iff (by decide) (by omega) (by omega), hyphen,
    Text.padded_lt_iff (by decide) (by omega) (by omega), hyphen, dayOrder]
  simp only [List.lt_irrefl, and_false, or_false, Before]
  omega

/-- A sign comes before every digit, so a signed year comes before every plain one. -/
theorem text_lt_of_signed {signed plain : Date} (isSigned : ¬ signed.HasPlainYear)
    (isPlain : plain.HasPlainYear) : signed.text < plain.text := by
  unfold HasPlainYear at isSigned isPlain
  have digit : ∀ character ∈ Text.padded 4 plain.year.toNat, '0' ≤ character := by
    intro character member
    have bounds := Text.isDigit_of_mem_padded member
    simp only [Char.isDigit, Bool.and_eq_true, decide_eq_true_eq] at bounds
    exact bounds.1
  rw [String.lt_iff_toList_lt, text, text, String.toList_ofList, String.toList_ofList, toChars,
    toChars, yearText, yearText, if_neg isSigned, if_pos isPlain]
  cases written : Text.padded 4 plain.year.toNat with
  | nil => exact (Text.padded_ne_nil _ _ written).elim
  | cons first others =>
    simp only [List.cons_append]
    rw [List.cons_lt_cons_iff]
    have low : '0' ≤ first := digit first (by simp [written])
    refine .inl (lt_of_lt_of_le ?_ low)
    split <;> decide

end Date
end SchoolWeek
