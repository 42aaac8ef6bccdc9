import SchoolWeek.Text.Utf8

/-! Tables as comma-separated text. A row ends with a carriage return, a line feed or
both, and an empty line is no row. A field that begins with a quote goes on to the
next single quote, whatever stands in it; a doubled quote stands for one. -/
namespace SchoolWeek.Csv

/-- Where in a table a character stands. -/
inductive Place
  | rowStart
  | fieldStart
  | field
  | quoted
  /-- After a quote inside quotes, which ends the quotes unless it is doubled. -/
  | quoteInQuotes
  deriving DecidableEq, Repr

def quote : Char := '\x22'

def isRowEnd (character? : Option Char) : Bool := character? = some '\n' || character? = some '\r'

/-- A row being read: its finished fields and the field begun, both last first. -/
structure Row where
  fields : List Text.Gapped
  field : Text.Gapped

namespace Row

def empty : Row := ⟨[], []⟩

def push (character? : Option Char) (row : Row) : Row :=
  { row with field := character? :: row.field }

def endField (row : Row) : Row := ⟨row.field.reverse :: row.fields, []⟩

/-- The fields, the one begun included. -/
def finish (row : Row) : List Text.Gapped := row.endField.fields.reverse

end Row

/-- What a character does: the row it finishes if any, the row it leaves, and the next place. -/
def step (place : Place) (row : Row) (character? : Option Char) :
    Option (List Text.Gapped) × Row × Place :=
  let outside (next : Row × Place) :=
    if character? = some ',' then (none, row.endField, Place.fieldStart)
    else if isRowEnd character? then (some row.finish, Row.empty, Place.rowStart)
    else (none, next)
  match place with
  | .rowStart =>
    if isRowEnd character? then (none, row, .rowStart)
    else if character? = some quote then (none, row, .quoted)
    else outside (row.push character?, .field)
  | .fieldStart =>
    if character? = some quote then (none, row, .quoted)
    else outside (row.push character?, .field)
  | .field => outside (row.push character?, .field)
  | .quoted =>
    if character? = some quote then (none, row, .quoteInQuotes)
    else (none, row.push character?, .quoted)
  | .quoteInQuotes =>
    if character? = some quote then (none, row.push character?, .quoted)
    else outside (row.push character?, .field)

def readFrom (place : Place) (row : Row) : Text.Gapped → List (List Text.Gapped)
  | [] => if place = .rowStart then [] else [row.finish]
  | character? :: text =>
    let (finished?, row, place) := step place row character?
    finished?.toList ++ readFrom place row text

/-- A byte order mark at the very beginning is no part of the first field. -/
def dropMark : Text.Gapped → Text.Gapped
  | some '\uFEFF' :: text => text
  | text => text

/-- The rows of a table, each with its fields. -/
def read (text : Text.Gapped) : List (List Text.Gapped) :=
  readFrom .rowStart .empty (dropMark text)

/-- A field needs quotes if it holds a comma, a quote or the end of a line. -/
def needsQuotes (field : List Char) : Bool :=
  field.any fun character =>
    character = ',' || character = quote || character = '\n' || character = '\r'

def writeField (field : List Char) : List Char :=
  if needsQuotes field then
    quote :: (field.flatMap fun character =>
      if character = quote then [quote, quote] else [character]) ++ [quote]
  else field

/-- The row with a line feed at its end. -/
def writeRow (fields : List (List Char)) : List Char :=
  [','].intercalate (fields.map writeField) ++ ['\n']

end SchoolWeek.Csv
