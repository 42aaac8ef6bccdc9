import SchoolWeek.Text.Decimal
import SchoolWeek.Timetable.Entry

/-! Tables of text in a frame, as wide as their widest cells. Width is the number of
characters. -/
namespace SchoolWeek.Console

/-- The text with spaces after it up to a width. -/
def padEnd (width : Nat) (text : String) : String :=
  text ++ String.ofList (List.replicate (width - text.length) ' ')

/-- The widths of the columns, for rows that have one cell in each. -/
def columnWidths (rows : List (List String)) : List Nat :=
  rows.foldl (fun widths row => (widths.zip row).map fun (width, cell) => max width cell.length)
    (((rows.head?).getD []).map String.length)

def frame (widths : List Nat) : String :=
  widths.foldl
    (fun line width => line ++ String.ofList (List.replicate (width + 2) '-') ++ "+") "+"

def line (widths : List Nat) (row : List String) : String :=
  (widths.zip row).foldl
    (fun line (width, cell) => line ++ " " ++ padEnd width cell ++ " |") "|"

/-- A table with a frame around its first row and around the others. -/
def table (header : List String) (rows : List (List String)) : String :=
  let widths := columnWidths (header :: rows)
  let frame := frame widths
  "\n".intercalate ([frame, line widths header, frame] ++ rows.map (line widths) ++ [frame])

def number (value : Nat) : String := String.ofList (Text.decimal value)

/-- The schedule of a day. -/
def dayTable (slots : List Slot) : String :=
  table ["period", "subject", "room", "from"] (slots.map fun slot =>
    [number slot.period, slot.subject, slot.room?.getD "", slot.origin?.getD ""])

/-- The timetable of the week. -/
def weekTable (entries : List Entry) : String :=
  table ["day", "period", "subject", "room", "color"] (entries.map fun entry =>
    [entry.day.glyph.toString, number entry.period, entry.subject, entry.room?.getD "",
      entry.color?.getD ""])

end SchoolWeek.Console
