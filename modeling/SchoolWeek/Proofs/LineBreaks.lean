import Mathlib
import SchoolWeek.Proofs.Rendering

/-! Mapping lines one by one. A reader of lines takes the carriage return off with the line feed
that ends a line, and gives no line after the last feed. None of this shows in what is read, as
each line is trimmed and a blank line says nothing. So a text says what its parts say one after
the other, wherever a line feed parts it. -/
namespace SchoolWeek

namespace Text

/-- A line without a carriage return at its end. -/
def withoutReturn (line : List Char) : List Char :=
  if line.getLast? = some '\r' then line.dropLast else line

/-- The lines of a text. A line feed ends a line and takes a carriage return before it along.
After the last feed there is a line only if something stands there. -/
def lines (text : List Char) : List (List Char) :=
  let parts := split (· == '\n') text
  parts.dropLast.map withoutReturn ++ parts.getLast?.toList.filter (· ≠ [])

theorem split_append {isSeparator : Char → Bool} {separator : Char}
    (separates : isSeparator separator = true) (before after : List Char) :
    split isSeparator (before ++ separator :: after) =
      split isSeparator before ++ split isSeparator after := by
  rw [split_eq_splitOnP, split_eq_splitOnP, split_eq_splitOnP]
  exact List.splitOnP_append_cons before after separates

theorem trim_withoutReturn (line : List Char) : trim (withoutReturn line) = trim line := by
  cases line using List.reverseRecOn with
  | nil => rfl
  | append_singleton before last =>
    rw [withoutReturn, List.getLast?_concat, List.dropLast_concat]
    split_ifs with returns
    · cases returns
      exact (trim_concat_blank before (by decide)).symm
    · rfl

end Text

namespace Mapping

theorem flatMap_readLine_filter (lines : List (List Char)) :
    (lines.filter (· ≠ [])).flatMap readLine = lines.flatMap readLine := by
  induction lines with
  | nil => rfl
  | cons line lines ih =>
    rw [List.filter_cons, List.flatMap_cons, ← ih]
    split_ifs with written
    · rfl
    · rw [show line = [] by simpa using written]
      rfl

/-- Reading cuts a text at its line feeds only. It gives what a reader of lines leads to, who
trims the lines and passes over those that are blank. -/
theorem read_eq_lines (text : List Char) :
    read text = (((Text.lines text).map Text.trim).filter (· ≠ [])).flatMap readLine := by
  obtain ⟨parts, last, whole⟩ : ∃ parts last, Text.split (· == '\n') text = parts ++ [last] :=
    ⟨_, _, (List.dropLast_append_getLast (Text.split_ne_nil _ text)).symm⟩
  have trimmed : (parts.map Text.withoutReturn).map Text.trim = parts.map Text.trim := by
    rw [List.map_map]
    exact List.map_congr_left fun line _ => Text.trim_withoutReturn line
  have ending : (([last].filter (· ≠ [])).map Text.trim).flatMap readLine =
      readLine (Text.trim last) := by
    by_cases written : last = []
    · rw [written]
      rfl
    · rw [List.filter_cons_of_pos (by simpa using written), List.filter_nil, List.map_singleton,
        List.flatMap_singleton]
  rw [flatMap_readLine_filter, Text.lines, read, whole, List.dropLast_concat, List.getLast?_concat,
    List.map_append, trimmed, Option.toList_some, List.flatMap_append, List.flatMap_append, ending,
    List.flatMap_map, List.flatMap_singleton]

/-- A line feed between two texts, or more of them, keeps what they say apart. That holds
whatever the lines end with, as a text says what a reader of lines has its lines say. -/
theorem lines_say_apart (before after : List Char) :
    read (before ++ '\n' :: after) = read before ++ read after ∧
      ∀ text, read text =
        (((Text.lines text).map Text.trim).filter (· ≠ [])).flatMap readLine := by
  refine ⟨?_, read_eq_lines⟩
  rw [read, Text.split_append (by decide), List.flatMap_append, ← read, ← read]

/-- A carriage return before the feed, a line that stops at its arrow and one without an arrow,
and a carriage return with no feed after it. -/
example :
    Text.lines "月1→火2\r\n\n水3→\n木4\r".toList =
      ["月1→火2".toList, [], "水3→".toList, "木4\r".toList] := by decide

end Mapping
end SchoolWeek
