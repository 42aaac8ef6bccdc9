import SchoolWeek.Date.Timestamp

/-! Moments in time with an offset from UTC, as Internet timestamps write them,
and the calendar date a moment falls on: at its own offset, and in UTC. -/
namespace SchoolWeek

/-- A local time and how many minutes it is ahead of UTC. -/
structure Instant where
  date : Date
  time : TimeOfDay
  minutesAhead : Int
  deriving DecidableEq

namespace Instant

/-- Exactly `count` digits at the front. -/
def fixedDigits (count : Nat) (text : List Char) : Except TimeTextError (Nat × List Char) :=
  let run := text.take count
  if run.length < count then .error .tooShort
  else if run.all Char.isDigit then .ok (Text.ofDigits run, text.drop count)
  else .error .invalid

def dateEnd : Scan Unit
  | [] => .error .tooShort
  | character :: rest =>
    if character = 'T' ∨ character = 't' ∨ character = ' ' then .ok ((), rest) else .error .invalid

def offsetSign : Scan Int
  | [] => .error .tooShort
  | character :: rest =>
    if character = '+' then .ok (1, rest)
    else if character = '-' ∨ character = '−' then .ok (-1, rest)
    else .error .invalid

/-- `Z`, or a signed offset in hours and minutes of less than a day. -/
def offset : Scan Int
  | 'Z' :: rest => .ok (0, rest)
  | 'z' :: rest => .ok (0, rest)
  | text => do
    let (sign, text) ← offsetSign text
    let (hours, text) ← fixedDigits 2 text
    let (_, text) ← Scan.character ':' text
    let (minutes, text) ← fixedDigits 2 text
    if minutes < 60 ∧ hours < 24 then return (sign * (hours * 60 + minutes : Nat), text)
    else throw .outOfRange

/-- Reads `YYYY-MM-DDTHH:MM:SS[.fraction]` followed by an offset. -/
def read (text : String) : Except TimeTextError Instant := do
  let (year, text) ← fixedDigits 4 text.toList
  let (_, text) ← Scan.character '-' text
  let (month, text) ← fixedDigits 2 text
  let (_, text) ← Scan.character '-' text
  let (day, text) ← fixedDigits 2 text
  let (_, text) ← dateEnd text
  let (hour, text) ← fixedDigits 2 text
  let (_, text) ← Scan.character ':' text
  let (minute, text) ← fixedDigits 2 text
  let (_, text) ← Scan.character ':' text
  let (second, text) ← fixedDigits 2 text
  let (nanosecond, text) ← Scan.fraction text
  let (minutesAhead, text) ← offset text
  Scan.finish false text
  match Date.of? year month day, TimeOfDay.of? hour minute second nanosecond with
  | some date, some time => return ⟨date, time, minutesAhead⟩
  | _, _ => throw .outOfRange

/-- The date on the wall where the moment was written down. -/
def localDate (moment : Instant) : Date := moment.date

/-- The date in UTC, which is at most one day off. -/
def utcDate (moment : Instant) : Date :=
  let minutes := (moment.time.hour * 60 + moment.time.minute : Nat) - moment.minutesAhead
  if minutes < 0 then moment.date.previous?.getD moment.date
  else if 24 * 60 ≤ minutes then moment.date.next?.getD moment.date
  else moment.date

end Instant
end SchoolWeek
