import SchoolWeek.Exchange.Csv
import SchoolWeek.Exchange.FileError
import SchoolWeek.Timetable.Basic
import SchoolWeek.Text.Blank

/-! The spreadsheet of a timetable: a first row that names the columns and one row
for each entry, with the day as its glyph. Columns are found by name and unknown ones
do not matter. If the first row cannot be read the columns are taken in order. -/
namespace SchoolWeek.Sheet

def columns : List String := ["day", "period", "subject", "room", "color"]

/-- A missing room or color is an empty field. -/
def fields (entry : Entry) : List (List Char) :=
  [[entry.day.glyph], Text.decimal entry.period, entry.subject.toList,
    (entry.room?.getD "").toList, (entry.color?.getD "").toList]

/-- The content of the file that keeps these entries; without entries not even the
names of the columns are written. -/
def write : List Entry → List Char
  | [] => []
  | entries =>
    Csv.writeRow (columns.map String.toList) ++
      entries.flatMap fun entry => Csv.writeRow (fields entry)

def save (entries : List Entry) : Except FileError (List Char) :=
  match Entry.check entries with
  | .error error => .error (.data error)
  | .ok () => .ok (write entries)

/-- A period is a number up to 255, in decimal or, after `0x`, in hexadecimal. -/
def readPeriod (text : List Char) : Except FileError Nat :=
  match (match text with
    | '0' :: 'x' :: digits => Text.byte? 16 digits
    | digits => Text.byte? 10 digits) with
  | some period => .ok period
  | none => .error .badRow

/-- A blank field is a missing value. -/
def present? (text : List Char) : Option String :=
  if Text.allBlank text then none else some (String.ofList text)

/-- The day whose glyph stands alone in the field. -/
def readDay (text : List Char) : Except FileError Weekday :=
  let day? := match Text.trim text with
    | [character] => Weekday.ofGlyph? character
    | _ => none
  match day? with
  | some day => .ok day
  | none => .error (.data (.weekdayGlyph (String.ofList text)))

/-- The entry of a row whose fields are given by column; only day, period and subject must be there. -/
def readEntry (field? : String → Option (List Char)) : Except FileError Entry := do
  let need (column : String) : Except FileError (List Char) :=
    match field? column with
    | some text => .ok text
    | none => .error .badRow
  let day ← need "day"
  let period ← need "period"
  let subject ← need "subject"
  let period ← readPeriod period
  let day ← readDay day
  return ⟨day, period, String.ofList subject, (field? "room").bind present?,
    (field? "color").bind present?⟩

/-- No known column may be named twice. -/
def namesOnce (names : List String) : Bool :=
  columns.all fun column => names.count column ≤ 1

/-- The entry of a row below the names of the columns. -/
def readNamed (names : List String) (row : List (List Char)) : Except FileError Entry :=
  if namesOnce names then readEntry fun column => (names.zip row).lookup column
  else .error .badRow

/-- The entry of a row without names of columns. -/
def readUnnamed (row : List (List Char)) : Except FileError Entry :=
  readEntry fun column => (columns.zip row).lookup column

/-- A row must be as long as the first one, and UTF-8. -/
def readRow (width : Nat) (read : List (List Char) → Except FileError Entry)
    (row : List Text.Gapped) : Except FileError Entry :=
  if row.length = width then
    match row.mapM Text.Gapped.whole? with
    | some row => read row
    | none => .error .notUtf8
  else .error .unequalLengths

def readRows : List (List Text.Gapped) → Except FileError (List Entry)
  | [] => .ok []
  | first :: rows =>
    match first.mapM Text.Gapped.whole? with
    | some names => rows.mapM (readRow first.length (readNamed (names.map String.ofList)))
    | none => rows.mapM (readRow first.length readUnnamed)

/-- The entries in a file, of which there must be some. -/
def load (text : Text.Gapped) : Except FileError (List Entry) := do
  let entries ← readRows (Csv.read text)
  if entries.isEmpty then throw (.data .noEntries)
  match Entry.check entries with
  | .error error => throw (.data error)
  | .ok () => return entries

end SchoolWeek.Sheet
