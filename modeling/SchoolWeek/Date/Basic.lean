import SchoolWeek.Weekday

/-! Dates of the proleptic Gregorian calendar, with a year 0, from the year
-262143 to the year 262142: which days there are, their order, the weekday each
falls on and the day after and before it. -/
namespace SchoolWeek

namespace Date

def isLeapYear (year : Int) : Bool := year % 4 == 0 && (year % 100 != 0 || year % 400 == 0)

def daysInMonth (year : Int) (month : Nat) : Nat :=
  if month == 2 then (if isLeapYear year then 29 else 28)
  else if month == 4 || month == 6 || month == 9 || month == 11 then 30
  else 31

def firstYear : Int := -262143

def lastYear : Int := 262142

/-- There is such a day, and its year can be represented. -/
def Exists (year : Int) (month day : Nat) : Prop :=
  firstYear ≤ year ∧ year ≤ lastYear ∧ 1 ≤ month ∧ month ≤ 12 ∧ 1 ≤ day ∧
    day ≤ daysInMonth year month

instance (year : Int) (month day : Nat) : Decidable (Exists year month day) := by
  unfold Exists
  infer_instance

end Date

/-- A day of the calendar. -/
structure Date where
  year : Int
  month : Nat
  day : Nat
  real : Date.Exists year month day
  deriving DecidableEq

namespace Date

def of? (year : Int) (month day : Nat) : Option Date :=
  if real : Exists year month day then some ⟨year, month, day, real⟩ else none

/-- The earlier of two dates has the smaller year, then month, then day. -/
def Before (left right : Date) : Prop :=
  left.year < right.year ∨ left.year = right.year ∧
    (left.month < right.month ∨ left.month = right.month ∧ left.day < right.day)

instance (left right : Date) : Decidable (Before left right) := by
  unfold Before
  infer_instance

/-- Days of the year before the first of a month. -/
def daysBeforeMonth (year : Int) (month : Nat) : Nat :=
  ((List.range month).drop 1).foldl (fun days earlier => days + daysInMonth year earlier) 0

/-- Days since 31 December of the year 0, which was a Sunday. -/
def dayCount (date : Date) : Int :=
  let past := date.year - 1
  365 * past + past / 4 - past / 100 + past / 400 + daysBeforeMonth date.year date.month + date.day

def weekday (date : Date) : Weekday := Weekday.ofDayCount (date.dayCount - 1)

/-- The following day; the last day of the last year has none. -/
def next? (date : Date) : Option Date :=
  if date.day < daysInMonth date.year date.month then of? date.year date.month (date.day + 1)
  else if date.month < 12 then of? date.year (date.month + 1) 1
  else of? (date.year + 1) 1 1

/-- The preceding day; the first day of the first year has none. -/
def previous? (date : Date) : Option Date :=
  if 1 < date.day then of? date.year date.month (date.day - 1)
  else if 1 < date.month then
    of? date.year (date.month - 1) (daysInMonth date.year (date.month - 1))
  else of? (date.year - 1) 12 31

theorem ext_fields {left right : Date} (year : left.year = right.year)
    (month : left.month = right.month) (day : left.day = right.day) : left = right := by
  cases left
  cases right
  cases year
  cases month
  cases day
  rfl

theorem of?_self (date : Date) : of? date.year date.month date.day = some date := dif_pos date.real

end Date
end SchoolWeek
