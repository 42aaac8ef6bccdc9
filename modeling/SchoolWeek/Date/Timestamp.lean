import SchoolWeek.Date.Text

/-! A date with a time of day, without a time zone. The written form is
`YYYY-MM-DDTHH:MM:SS`, with a fraction of 3, 6 or 9 digits when the time falls
between two seconds. Second 60 is a leap second. -/
namespace SchoolWeek

/-- A time of day to the nanosecond. -/
structure TimeOfDay where
  hour : Nat
  minute : Nat
  second : Nat
  nanosecond : Nat
  real : hour < 24 ∧ minute < 60 ∧ second ≤ 60 ∧ nanosecond < 1000000000
  deriving DecidableEq

namespace TimeOfDay

def midnight : TimeOfDay := ⟨0, 0, 0, 0, by decide⟩

def of? (hour minute second nanosecond : Nat) : Option TimeOfDay :=
  if real : hour < 24 ∧ minute < 60 ∧ second ≤ 60 ∧ nanosecond < 1000000000 then
    some ⟨hour, minute, second, nanosecond, real⟩
  else none

/-- The fraction of a second has the fewest of 3, 6 and 9 digits that show it. -/
def fractionText (nanosecond : Nat) : List Char :=
  if nanosecond = 0 then []
  else if nanosecond % 1000000 = 0 then '.' :: Text.padded 3 (nanosecond / 1000000)
  else if nanosecond % 1000 = 0 then '.' :: Text.padded 6 (nanosecond / 1000)
  else '.' :: Text.padded 9 nanosecond

def toChars (time : TimeOfDay) : List Char :=
  Text.padded 2 time.hour ++ ':' :: Text.padded 2 time.minute ++ ':' :: Text.padded 2 time.second ++
    fractionText time.nanosecond

end TimeOfDay

structure Timestamp where
  date : Date
  time : TimeOfDay
  deriving DecidableEq

namespace Scan

/-- The digits after a decimal point as nanoseconds; digits past the ninth are dropped. -/
def nanoseconds (text : List Char) : Except TimeTextError (Nat × List Char) :=
  match digits 9 text with
  | .error error => .error error
  | .ok (value, rest) =>
    .ok (value * Nat.pow 10 (9 - (text.length - rest.length)), rest.dropWhile Char.isDigit)

/-- An optional point and fraction of a second. -/
def fraction : Scan Nat
  | '.' :: text => nanoseconds text
  | text => .ok (0, text)

end Scan

namespace Timestamp

def toChars (stamp : Timestamp) : List Char :=
  stamp.date.toChars ++ 'T' :: stamp.time.toChars

/-- The written form. -/
def text (stamp : Timestamp) : String := String.ofList stamp.toChars

def readWith (relaxed : Bool) (text : List Char) : Except TimeTextError Timestamp := do
  let ((year, month, day), text) ← Scan.date relaxed text
  let (_, text) ← Scan.separator relaxed 'T' text
  let (hour, text) ← Scan.number 2 0 23 text
  let (_, text) ← Scan.separator relaxed ':' text
  let (minute, text) ← Scan.number 2 0 59 text
  let (_, text) ← Scan.separator relaxed ':' text
  let (second, text) ← Scan.number 2 0 60 text
  let (nanosecond, text) ← if relaxed then Scan.fraction text else pure (0, text)
  Scan.finish relaxed text
  match Date.of? year month day, TimeOfDay.of? hour minute second nanosecond with
  | some date, some time => return ⟨date, time⟩
  | _, _ => throw .outOfRange

/-- Reads a time stamp to whole seconds, or says why the text is none. -/
def read (text : String) : Except TimeTextError Timestamp := readWith false text.toList

/-- Reads a time stamp with the relaxed treatment of white space and an optional fraction. -/
def readRelaxed (text : String) : Except TimeTextError Timestamp := readWith true text.toList

end Timestamp
end SchoolWeek
