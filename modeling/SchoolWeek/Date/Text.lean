import SchoolWeek.Date.Basic
import SchoolWeek.Text.Blank
import SchoolWeek.Text.Decimal

/-! Dates as text. The written form is `YYYY-MM-DD`: a year from 0 to 9999 has
four digits, any other year has a sign and at least four digits. Reading is more
generous: white space may stand before each number, and a number may be short.
The relaxed reading also lets white space stand before each hyphen and at the end. -/
namespace SchoolWeek

/-- Why a text is no date or time. -/
inductive TimeTextError
  | invalid
  | tooShort
  | tooLong
  | outOfRange
  deriving DecidableEq, Repr

def TimeTextError.message : TimeTextError → String
  | .invalid => "input contains invalid characters"
  | .tooShort => "premature end of input"
  | .tooLong => "trailing input"
  | .outOfRange => "input is out of range"

/-- Reads a value off the front of a text and says what is left. -/
abbrev Scan (α : Type) := List Char → Except TimeTextError (α × List Char)

namespace Scan

/-- The digits at the front, at least one and at most `limit`. -/
def digits (limit : Nat) : Scan Nat
  | [] => .error .tooShort
  | text =>
    let run := (text.take limit).takeWhile Char.isDigit
    if run.isEmpty then .error .invalid else .ok (Text.ofDigits run, text.drop run.length)

/-- A number after optional white space, in the bounds given. -/
def number (limit low high : Nat) (text : List Char) : Except TimeTextError (Nat × List Char) :=
  match digits limit (Text.trimStart text) with
  | .error error => .error error
  | .ok (value, rest) => if low ≤ value ∧ value ≤ high then .ok (value, rest) else .error .outOfRange

/-- One certain character. -/
def character (expected : Char) : Scan Unit
  | [] => .error .tooShort
  | found :: rest => if found = expected then .ok ((), rest) else .error .invalid

/-- One certain character, before which a relaxed reading skips white space. -/
def separator (relaxed : Bool) (expected : Char) (text : List Char) :
    Except TimeTextError (Unit × List Char) :=
  character expected (if relaxed then Text.trimStart text else text)

/-- A year has up to four digits, or a sign and any number of digits. -/
def year (text : List Char) : Except TimeTextError (Int × List Char) :=
  let text := Text.trimStart text
  let signed (sign : Int) (rest : List Char) : Except TimeTextError (Int × List Char) :=
    match digits rest.length rest with
    | .error error => .error error
    | .ok (value, rest) =>
      let value := sign * value
      if -2147483648 ≤ value ∧ value ≤ 2147483647 then .ok (value, rest) else .error .outOfRange
  match text with
  | '+' :: rest => signed 1 rest
  | '-' :: rest => signed (-1) rest
  | _ => match digits 4 text with
    | .error error => .error error
    | .ok (value, rest) => .ok ((value : Int), rest)

/-- The three numbers of a date. Whether there is such a day is not asked yet. -/
def date (relaxed : Bool) (text : List Char) :
    Except TimeTextError ((Int × Nat × Nat) × List Char) := do
  let (year, text) ← year text
  let (_, text) ← separator relaxed '-' text
  let (month, text) ← number 2 1 12 text
  let (_, text) ← separator relaxed '-' text
  let (day, text) ← number 2 1 31 text
  return ((year, month, day), text)

/-- Nothing may be left over, but for white space if the reading is relaxed. -/
def finish (relaxed : Bool) (text : List Char) : Except TimeTextError Unit :=
  if (if relaxed then Text.trimStart text else text).isEmpty then .ok () else .error .tooLong

end Scan

namespace Date

def yearText (year : Int) : List Char :=
  if 0 ≤ year ∧ year ≤ 9999 then Text.padded 4 year.toNat
  else (if year < 0 then '-' else '+') :: Text.padded 4 year.natAbs

def toChars (date : Date) : List Char :=
  yearText date.year ++ '-' :: Text.padded 2 date.month ++ '-' :: Text.padded 2 date.day

/-- The written form. -/
def text (date : Date) : String := String.ofList date.toChars

def readWith (relaxed : Bool) (text : List Char) : Except TimeTextError Date := do
  let ((year, month, day), rest) ← Scan.date relaxed text
  Scan.finish relaxed rest
  match of? year month day with
  | some date => return date
  | none => throw .outOfRange

/-- Reads a date, or says why the text is none. -/
def read (text : String) : Except TimeTextError Date := readWith false text.toList

/-- Reads a date with the relaxed treatment of white space. -/
def readRelaxed (text : String) : Except TimeTextError Date := readWith true text.toList

def read? (text : String) : Option Date := (read text).toOption

end Date
end SchoolWeek
