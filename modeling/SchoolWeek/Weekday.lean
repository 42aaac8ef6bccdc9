/-! The seven days of the week, the glyph that writes each of them, and the
two ways of numbering them. Remaps and stored rows count from Monday, the
weekly timetable counts from Sunday; both numberings are codes for one day. -/
namespace SchoolWeek

inductive Weekday
  | monday | tuesday | wednesday | thursday | friday | saturday | sunday
  deriving DecidableEq, Repr, Inhabited

namespace Weekday

/-- Every day once, Monday first. -/
def all : List Weekday :=
  [monday, tuesday, wednesday, thursday, friday, saturday, sunday]

/-- Monday is 0 and Sunday is 6. -/
def mondayIndex : Weekday → Nat
  | monday => 0 | tuesday => 1 | wednesday => 2 | thursday => 3
  | friday => 4 | saturday => 5 | sunday => 6

/-- Sunday is 0 and Saturday is 6. -/
def sundayIndex (day : Weekday) : Nat := (day.mondayIndex + 1) % 7

def ofMondayIndex? (index : Nat) : Option Weekday := all.find? (·.mondayIndex == index)

def ofSundayIndex? (index : Nat) : Option Weekday := all.find? (·.sundayIndex == index)

/-- The day a count of days after some Monday falls on. -/
def ofDayCount (count : Int) : Weekday := (ofMondayIndex? (count % 7).toNat).getD monday

def glyph : Weekday → Char
  | monday => '月' | tuesday => '火' | wednesday => '水' | thursday => '木'
  | friday => '金' | saturday => '土' | sunday => '日'

def ofGlyph? (character : Char) : Option Weekday := all.find? (·.glyph == character)

theorem ofMondayIndex?_mondayIndex (day : Weekday) : ofMondayIndex? day.mondayIndex = some day := by
  cases day <;> rfl

theorem ofSundayIndex?_sundayIndex (day : Weekday) : ofSundayIndex? day.sundayIndex = some day := by
  cases day <;> rfl

theorem ofGlyph?_glyph (day : Weekday) : ofGlyph? day.glyph = some day := by
  cases day <;> decide

/-- A glyph names a day exactly when that day is written with it. -/
theorem ofGlyph?_eq_some_iff {character : Char} {day : Weekday} :
    ofGlyph? character = some day ↔ day.glyph = character := by
  constructor
  · intro found
    simpa using List.find?_some found
  · rintro rfl
    exact ofGlyph?_glyph day

end Weekday
end SchoolWeek
