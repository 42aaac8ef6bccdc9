import Mathlib
import SchoolWeek.Proofs.CsvReading
import SchoolWeek.Proofs.SnapshotFile

/-! The spreadsheet of a timetable gives back what was saved in it, but for a room or a color of
nothing but white space, which a spreadsheet cannot tell from a missing one. What has been through
a spreadsheet once is not changed by it any more. -/
namespace SchoolWeek.Sheet

/-- The entry as a spreadsheet keeps it. -/
def kept (entry : Entry) : Entry :=
  { entry with
    room? := entry.room?.filter fun room => !Text.allBlank room.toList
    color? := entry.color?.filter fun color => !Text.allBlank color.toList }

theorem kept_kept (entry : Entry) : kept (kept entry) = kept entry := by
  simp [kept, Option.filter_filter]

theorem present?_getD (text? : Option String) :
    present? (text?.getD "").toList = text?.filter fun text => !Text.allBlank text.toList := by
  cases text? with
  | none => rfl
  | some text =>
    rw [present?, Option.getD_some]
    cases blank : Text.allBlank text.toList <;> simp [Option.filter, blank]

theorem readPeriod_decimal {number : Nat} (bounds : 1 ≤ number ∧ number ≤ 9) :
    readPeriod (Text.decimal number) = .ok number := by
  obtain ⟨low, high⟩ := bounds
  interval_cases number <;> rfl

theorem readDay_glyph (day : Weekday) : readDay [day.glyph] = .ok day := by
  cases day <;> rfl

theorem readNamed_fields {entry : Entry} (proper : entry.IsProper) :
    readNamed columns (fields entry) = .ok (kept entry) := by
  have once : namesOnce columns = true := by decide
  have room := present?_getD entry.room?
  have color := present?_getD entry.color?
  rw [readNamed, if_pos once]
  simp [readEntry, columns, fields, List.lookup, readPeriod_decimal proper.1, readDay_glyph, room,
    color, kept, bind, Except.bind, pure, Except.pure]

theorem mapM_whole? (row : List (List Char)) :
    (row.map (List.map some)).mapM Text.Gapped.whole? = some row := by
  have whole (text : List Char) : Text.Gapped.whole? (text.map some) = pure text := by
    rw [Text.Gapped.whole?, List.mapM_map]
    exact List.mapM_pure.trans (congrArg some (List.map_id text))
  rw [List.mapM_map]
  simp only [Function.comp_def, whole]
  exact List.mapM_pure.trans (congrArg some (List.map_id row))

theorem readRow_fields {entry : Entry} (proper : entry.IsProper) :
    readRow columns.length (readNamed columns) ((fields entry).map (List.map some)) =
      .ok (kept entry) := by
  have width : ((fields entry).map (List.map some)).length = columns.length := rfl
  rw [readRow, if_pos width, mapM_whole?]
  exact readNamed_fields proper

theorem readRows_written {entries : List Entry} (proper : ∀ entry ∈ entries, entry.IsProper) :
    readRows ((columns.map String.toList :: entries.map fields).map (List.map (List.map some))) =
      .ok (entries.map kept) := by
  have names : (columns.map String.toList).map String.ofList = columns := by decide
  have width : ((columns.map String.toList).map (List.map some)).length = columns.length := rfl
  rw [List.map_cons, readRows, mapM_whole?]
  dsimp only
  rw [names, width]
  induction entries with
  | nil => rfl
  | cons entry entries ih =>
    have first := readRow_fields (proper entry List.mem_cons_self)
    have others := ih fun other member => proper other (List.mem_cons_of_mem entry member)
    rw [List.map_cons, List.map_cons, List.mapM_cons, first, others]
    rfl

theorem write_eq {entries : List Entry} (nonempty : entries ≠ []) :
    write entries = (columns.map String.toList :: entries.map fields).flatMap Csv.writeRow := by
  cases entries with
  | nil => exact (nonempty rfl).elim
  | cons entry entries => simp [write, List.flatMap_map]

theorem isSeen_of_length {row : List (List Char)} (long : 1 < row.length) : Csv.IsSeen row := by
  constructor <;> rintro rfl <;> exact absurd long (by decide)

theorem read_write {entries : List Entry} (nonempty : entries ≠ []) :
    Csv.read (Text.decodeUtf8 (Text.encodeUtf8 (write entries))) =
      (columns.map String.toList :: entries.map fields).map (List.map (List.map some)) := by
  have seen : ∀ row ∈ columns.map String.toList :: entries.map fields, Csv.IsSeen row := by
    intro row member
    rcases List.mem_cons.mp member with rfl | inEntries
    · exact isSeen_of_length (by decide)
    · obtain ⟨entry, -, rfl⟩ := List.mem_map.mp inEntries
      exact isSeen_of_length (by simp [fields])
  rw [Text.decodeUtf8_encodeUtf8, write_eq nonempty]
  refine Csv.read_rows seen ?_
  rw [List.flatMap_cons, List.head?_append_of_ne_nil _ (by decide)]
  decide

/-- A spreadsheet keeps what the check looks at. -/
theorem check_kept {entries : List Entry} (accepted : Entry.check entries = .ok ()) :
    Entry.check (entries.map kept) = .ok () := by
  obtain ⟨proper, distinct⟩ := Entry.check_eq_ok_iff.mp accepted
  refine Entry.check_eq_ok_iff.mpr ⟨fun other member => ?_, ?_⟩
  · obtain ⟨entry, inEntries, rfl⟩ := List.mem_map.mp member
    exact proper entry inEntries
  · rwa [List.map_map]

theorem load_write {entries : List Entry} (nonempty : entries ≠ [])
    (accepted : Entry.check entries = .ok ()) :
    load (Text.decodeUtf8 (Text.encodeUtf8 (write entries))) = .ok (entries.map kept) := by
  have proper := (Entry.check_eq_ok_iff.mp accepted).1
  have some : (entries.map kept).isEmpty = false := by simp [nonempty]
  simp only [load, read_write nonempty, readRows_written proper, some, check_kept accepted, bind,
    Except.bind, Bool.false_eq_true, ↓reduceIte, pure, Except.pure]

theorem save_eq_ok {entries : List Entry} (accepted : Entry.check entries = .ok ()) :
    save entries = .ok (write entries) := by
  rw [save, accepted]

/-- What is saved is loaded again, but for blank rooms and colors; and then the same is saved and
loaded for good. -/
theorem load_save_but_blanks {entries : List Entry} (nonempty : entries ≠ [])
    (accepted : Entry.check entries = .ok ()) :
    (∃ content, save entries = .ok content ∧
        (∀ (m : Type → Type) [Monad m] [Files m] (path : String),
          Console.WritesFile path (Text.encodeUtf8 content)
            (Console.saveEntries .csv path entries : m String)) ∧
        load (Text.decodeUtf8 (Text.encodeUtf8 content)) = .ok (entries.map kept)) ∧
      ∃ again, save (entries.map kept) = .ok again ∧
        load (Text.decodeUtf8 (Text.encodeUtf8 again)) = .ok (entries.map kept) := by
  have stillNonempty : entries.map kept ≠ [] := by simp [nonempty]
  have reloaded := load_write stillNonempty (check_kept accepted)
  have unchanged : (entries.map kept).map kept = entries.map kept := by
    simp [Function.comp_def, kept_kept]
  rw [unchanged] at reloaded
  have made : Console.contentOf .csv entries = .ok (write entries) := save_eq_ok accepted
  exact ⟨⟨write entries, save_eq_ok accepted,
      fun m _ _ path => Console.writesFile_saveEntries made path, load_write nonempty accepted⟩,
    write (entries.map kept), save_eq_ok (check_kept accepted), reloaded⟩

/-- Fields with every character that delimits fields or rows, a blank room and a color in blanks. -/
def quotedFields : List Entry :=
  [⟨.saturday, 3, " a,\"b\"\r\n", some "\u3000", some " c "⟩, ⟨.monday, 1, "\"", some "", none⟩]

theorem load_save_but_blanks_quoted :
    quotedFields ≠ [] ∧ Entry.check quotedFields = .ok () ∧
      ∃ content, save quotedFields = .ok content ∧
        load (Text.decodeUtf8 (Text.encodeUtf8 content)) =
          .ok [⟨.saturday, 3, " a,\"b\"\r\n", none, some " c "⟩,
            ⟨.monday, 1, "\"", none, none⟩] := by
  have nonempty : quotedFields ≠ [] := by decide
  have accepted : Entry.check quotedFields = .ok () := by decide +kernel
  obtain ⟨⟨content, saved, -, loaded⟩, -⟩ := load_save_but_blanks nonempty accepted
  have blanksGone : quotedFields.map kept =
      [⟨.saturday, 3, " a,\"b\"\r\n", none, some " c "⟩, ⟨.monday, 1, "\"", none, none⟩] := by
    decide +kernel
  rw [blanksGone] at loaded
  exact ⟨nonempty, accepted, content, saved, loaded⟩

end SchoolWeek.Sheet
