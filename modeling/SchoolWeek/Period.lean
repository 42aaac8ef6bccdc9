/-! The numbered class periods of a school day, first to ninth. -/
namespace SchoolWeek

/-- One of the nine periods. -/
structure Period where
  number : Nat
  one_le : 1 ≤ number
  le_nine : number ≤ 9
  deriving DecidableEq, Repr

namespace Period

def ofNat? (number : Nat) : Option Period :=
  if bounds : 1 ≤ number ∧ number ≤ 9 then some ⟨number, bounds.1, bounds.2⟩ else none

/-- The periods in order. -/
def all : List Period := [1, 2, 3, 4, 5, 6, 7, 8, 9].filterMap ofNat?

def last : Period := ⟨9, by decide, by decide⟩

/-- Only the ASCII digits 1 to 9 name a period. -/
def ofDigit? (character : Char) : Option Period := ofNat? (character.toNat - '0'.toNat)

def digit (period : Period) : Char := Char.ofNat ('0'.toNat + period.number)

/-- The periods from `first` to `last`; numbers outside 1 to 9 are cut off. -/
def range (first last : Nat) : List Period :=
  all.filter fun period => first ≤ period.number && period.number ≤ last

theorem ext_number {left right : Period} (same : left.number = right.number) : left = right := by
  cases left
  cases right
  cases same
  rfl

theorem ofNat?_number (period : Period) : ofNat? period.number = some period :=
  dif_pos ⟨period.one_le, period.le_nine⟩

theorem ofNat?_eq_some_iff {number : Nat} {period : Period} :
    ofNat? number = some period ↔ period.number = number := by
  constructor
  · intro found
    unfold ofNat? at found
    split at found
    · cases found
      rfl
    · cases found
  · rintro rfl
    exact ofNat?_number period

theorem mem_all (period : Period) : period ∈ all := by
  refine List.mem_filterMap.2 ⟨period.number, ?_, ofNat?_number period⟩
  have low := period.one_le
  have high := period.le_nine
  simp only [List.mem_cons, List.not_mem_nil, or_false]
  omega

theorem ofDigit?_digit (period : Period) : ofDigit? period.digit = some period := by
  have high := period.le_nine
  have small : '0'.toNat + period.number < 0xd800 := by
    show 48 + period.number < 0xd800
    omega
  have code : (Char.ofNat ('0'.toNat + period.number)).toNat = '0'.toNat + period.number := by
    rw [Char.ofNat, dif_pos (Or.inl small)]
    rfl
  refine ofNat?_eq_some_iff.2 ?_
  rw [digit, code]
  omega

end Period
end SchoolWeek
