import SchoolWeek.Json.Decode
import SchoolWeek.Timetable.DataError

/-! What can go wrong when a timetable is loaded from a file or saved to one. -/
namespace SchoolWeek

/-- The two formats of a timetable in a file. -/
inductive FileFormat
  | json
  | csv
  deriving DecidableEq, Repr

/-- How a message begins that is about the format of a file. -/
def FileFormat.errorLead : FileFormat → String
  | .json => "serialization error: "
  | .csv => "csv error: "

inductive FileError
  /-- The file cannot be opened or made, for the reason given. -/
  | io (text : String)
  /-- What was opened cannot be read as JSON, for the reason given. -/
  | unreadable (text : String)
  | json (error : Json.DecodeError)
  /-- A row of the table has another number of fields than its first row. -/
  | unequalLengths
  /-- A row of the table is not UTF-8. -/
  | notUtf8
  /-- A column is missing or there twice, or a period is no small number. -/
  | badRow
  | data (error : DataError)
  deriving DecidableEq, Repr

namespace FileError

def jsonText : Json.DecodeError → String
  | .malformed => "malformed text"
  | .shape => "value of another shape expected"
  | .refused message => message

def message : FileError → String
  | .io text => "io error: " ++ text
  | .unreadable text => FileFormat.json.errorLead ++ text
  | .json error => FileFormat.json.errorLead ++ jsonText error
  | .unequalLengths => FileFormat.csv.errorLead ++ "row with another number of fields"
  | .notUtf8 => FileFormat.csv.errorLead ++ "row is not UTF-8"
  | .badRow => FileFormat.csv.errorLead ++ "row does not fit"
  | .data error => "invalid data: " ++ error.message

end FileError
end SchoolWeek
