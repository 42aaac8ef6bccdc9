import Mathlib
import SchoolWeek.Exchange.Csv

/-! A table that was written is read again, whatever characters its fields hold. The reader goes
from field to field: it comes to the end of what was written for a field with just that field
begun, outside quotes, so that the comma or the line feed behind it ends the field. The one row
that is lost has a single empty field, since that is an empty line. -/
namespace SchoolWeek.Csv

variable {place : Place} {fields : List Text.Gapped} {begun rest : Text.Gapped}

/-- Where a field may begin. -/
def Place.Begins (place : Place) : Prop := place = .rowStart ∨ place = .fieldStart

/-- A character that delimits nothing. -/
def IsPlain (character : Char) : Prop :=
  character ≠ ',' ∧ character ≠ quote ∧ character ≠ '\n' ∧ character ≠ '\r'

theorem isPlain_of_needsQuotes {field : List Char} (plain : needsQuotes field = false) :
    ∀ character ∈ field, IsPlain character := by
  intro character member
  have noDelimiter := List.any_eq_false.mp plain character member
  simpa [IsPlain, not_or, and_assoc] using noDelimiter

theorem readFrom_plain {character : Char} (plain : IsPlain character) (outside : place ≠ .quoted) :
    readFrom place ⟨fields, begun⟩ (some character :: rest) =
      readFrom .field ⟨fields, some character :: begun⟩ rest := by
  obtain ⟨noComma, noQuote, noFeed, noReturn⟩ := plain
  cases place <;> simp_all [readFrom, step, isRowEnd, Row.push]

theorem readFrom_plains {field : List Char} (plain : ∀ character ∈ field, IsPlain character) :
    readFrom .field ⟨fields, begun⟩ (field.map some ++ rest) =
      readFrom .field ⟨fields, (field.map some).reverse ++ begun⟩ rest := by
  induction field generalizing begun with
  | nil => rfl
  | cons character field ih =>
    rw [List.map_cons, List.cons_append,
      readFrom_plain (plain character List.mem_cons_self) (by decide),
      ih fun other member => plain other (List.mem_cons_of_mem character member)]
    simp

/-- Inside quotes every character stands for itself, but a quote, which is doubled. -/
theorem readFrom_quoted (field : List Char) :
    readFrom .quoted ⟨fields, begun⟩
        ((field.flatMap fun character =>
          if character = quote then [quote, quote] else [character]).map some ++ rest) =
      readFrom .quoted ⟨fields, (field.map some).reverse ++ begun⟩ rest := by
  induction field generalizing begun with
  | nil => rfl
  | cons character field ih =>
    have one (tail : Text.Gapped) : readFrom .quoted ⟨fields, begun⟩
        ((if character = quote then [quote, quote] else [character]).map some ++ tail) =
          readFrom .quoted ⟨fields, some character :: begun⟩ tail := by
      by_cases isQuote : character = quote
      · subst isQuote
        rfl
      · simp [isQuote, readFrom, step, Row.push]
    rw [List.flatMap_cons, List.map_append, List.append_assoc, one, ih]
    simp

/-- After what was written for a field the reader is outside quotes, with the field begun. -/
theorem readFrom_field (begins : place.Begins) (fields : List Text.Gapped) (field : List Char)
    (rest : Text.Gapped) :
    ∃ ended, ended ≠ .quoted ∧ (ended = .rowStart → place = .rowStart ∧ field = []) ∧
      readFrom place ⟨fields, []⟩ ((writeField field).map some ++ rest) =
        readFrom ended ⟨fields, (field.map some).reverse⟩ rest := by
  have outside : place ≠ .quoted := by rcases begins with rfl | rfl <;> decide
  unfold writeField
  split_ifs with quotes
  · have opened (tail : Text.Gapped) : readFrom place ⟨fields, []⟩ (some quote :: tail) =
        readFrom .quoted ⟨fields, []⟩ tail := by
      rcases begins with rfl | rfl <;> rfl
    refine ⟨.quoteInQuotes, by decide, by simp, ?_⟩
    rw [List.map_append, List.append_assoc, List.map_cons, List.cons_append, opened,
      readFrom_quoted, List.append_nil]
    rfl
  · cases field with
    | nil => exact ⟨place, outside, fun same => ⟨same, rfl⟩, rfl⟩
    | cons character field =>
      have plain := isPlain_of_needsQuotes (Bool.eq_false_iff.mpr quotes)
      refine ⟨.field, by decide, by simp, ?_⟩
      rw [List.map_cons, List.cons_append,
        readFrom_plain (plain character List.mem_cons_self) outside,
        readFrom_plains fun other member => plain other (List.mem_cons_of_mem character member)]
      simp

theorem readFrom_comma (outside : place ≠ .quoted) :
    readFrom place ⟨fields, begun⟩ (some ',' :: rest) =
      readFrom .fieldStart ⟨begun.reverse :: fields, []⟩ rest := by
  cases place <;> first | contradiction | rfl

theorem readFrom_lineFeed (outside : place ≠ .quoted) (within : place ≠ .rowStart) :
    readFrom place ⟨fields, begun⟩ (some '\n' :: rest) =
      (begun.reverse :: fields).reverse :: readFrom .rowStart .empty rest := by
  cases place <;> first | contradiction | rfl

theorem writeRow_cons (first second : List Char) (others : List (List Char)) :
    writeRow (first :: second :: others) =
      writeField first ++ ',' :: writeRow (second :: others) := by
  simp [writeRow, List.intercalate]

theorem writeRow_singleton (field : List Char) : writeRow [field] = writeField field ++ ['\n'] := by
  simp [writeRow, List.intercalate]

/-- A row is read as the fields it was written for, after any fields before them. -/
theorem readFrom_row {row : List (List Char)} (nonempty : row ≠ []) (begins : place.Begins)
    (seen : place = .rowStart → row ≠ [[]]) (fields : List Text.Gapped) (rest : Text.Gapped) :
    readFrom place ⟨fields, []⟩ ((writeRow row).map some ++ rest) =
      (fields.reverse ++ row.map (List.map some)) :: readFrom .rowStart .empty rest := by
  -- The row may go on with any fields before it, so that the fields come off one by one.
  induction row generalizing place fields with
  | nil => exact (nonempty rfl).elim
  | cons first others ih =>
    cases others with
    | nil =>
      obtain ⟨ended, outside, stays, read⟩ := readFrom_field begins fields first (some '\n' :: rest)
      have within : ended ≠ .rowStart := fun same => by
        obtain ⟨atStart, empty⟩ := stays same
        exact seen atStart (by rw [empty])
      rw [writeRow_singleton, List.map_append, List.append_assoc]
      refine read.trans ?_
      rw [readFrom_lineFeed outside within]
      simp
    | cons second others =>
      obtain ⟨ended, outside, -, read⟩ := readFrom_field begins fields first
        (some ',' :: ((writeRow (second :: others)).map some ++ rest))
      rw [writeRow_cons, List.map_append, List.append_assoc]
      refine read.trans ?_
      rw [readFrom_comma outside, ih (by simp) (.inr rfl) (by simp)]
      simp

/-- A row that is not lost. -/
def IsSeen (row : List (List Char)) : Prop := row ≠ [] ∧ row ≠ [[]]

theorem readFrom_rows {rows : List (List (List Char))} (seen : ∀ row ∈ rows, IsSeen row) :
    readFrom .rowStart .empty ((rows.flatMap writeRow).map some) =
      rows.map (List.map (List.map some)) := by
  induction rows with
  | nil => rfl
  | cons row rows ih =>
    obtain ⟨nonempty, noBlank⟩ := seen row List.mem_cons_self
    have read := readFrom_row nonempty (.inl rfl) (fun _ => noBlank) []
      ((rows.flatMap writeRow).map some)
    rw [List.flatMap_cons, List.map_append]
    refine read.trans ?_
    rw [ih fun other member => seen other (List.mem_cons_of_mem row member)]
    rfl

/-- The rows of a table are read back, if the table does not begin with a byte order mark. -/
theorem read_rows {rows : List (List (List Char))} (seen : ∀ row ∈ rows, IsSeen row)
    (noMark : (rows.flatMap writeRow).head? ≠ some '\uFEFF') :
    read ((rows.flatMap writeRow).map some) = rows.map (List.map (List.map some)) := by
  have kept : dropMark ((rows.flatMap writeRow).map some) = (rows.flatMap writeRow).map some := by
    unfold dropMark
    split
    · rename_i begins
      cases written : rows.flatMap writeRow <;> simp_all
    · rfl
  rw [read, kept, readFrom_rows seen]

end SchoolWeek.Csv
