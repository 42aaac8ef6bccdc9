import SchoolWeek.Remap.Basic

/-! Segments of the day and period notation. A weekday glyph opens a segment and
the digits 1 to 9 after it are its periods: `月123水45` is two segments. All other
characters are passed over. -/
namespace SchoolWeek

/-- Every period digit of a text, in order. -/
def periodsIn (text : List Char) : List Period := text.filterMap Period.ofDigit?

namespace Segment

/-- Reads a text that begins with a glyph as a single segment: later glyphs count for nothing. -/
def read? : List Char → Option Segment
  | [] => none
  | character :: rest => (Weekday.ofGlyph? character).map fun day => ⟨day, periodsIn rest⟩

/-- A finished segment is kept only if it has a period. -/
def finished : Option Segment → List Segment
  | none => []
  | some segment => if segment.periods.isEmpty then [] else [segment]

/-- Reads on with a segment that may be open already. -/
def scanFrom : Option Segment → List Char → List Segment
  | current, [] => finished current
  | current, character :: rest =>
    match Weekday.ofGlyph? character with
    | some day => finished current ++ scanFrom (some ⟨day, []⟩) rest
    | none =>
      match Period.ofDigit? character with
      | some period =>
        scanFrom (current.map fun segment =>
          { segment with periods := segment.periods ++ [period] }) rest
      | none => scanFrom current rest

/-- The segments of a text. Digits before the first glyph and glyphs without
digits are dropped. -/
def scan (text : List Char) : List Segment := scanFrom none text

def toChars (segment : Segment) : List Char := segment.day.glyph :: segment.periods.map Period.digit

end Segment
end SchoolWeek
