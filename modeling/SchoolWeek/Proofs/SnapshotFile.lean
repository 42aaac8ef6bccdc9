import Mathlib
import SchoolWeek.Console.Commands
import SchoolWeek.Proofs.TimetableMap
import SchoolWeek.Proofs.WireValues

/-! The JSON file of a timetable gives back what was saved in it, whatever the texts of the
classes: each list that passes the check is written, and the file is read as the same list.
A list that does not pass leaves no file. -/
namespace SchoolWeek

namespace Console

variable {m : Type → Type} [Monad m] [Files m]

/-- The command writes one file and says how that went. -/
def WritesFile (path : String) (bytes : List UInt8) (command : m String) : Prop :=
  ∃ said : Except FileFault Unit → String,
    command = Files.write path bytes >>= fun written => pure (said written)

/-- The command says something and does nothing. -/
def WritesNothing (command : m String) : Prop := ∃ said, command = pure said

/-- What is said after writing. -/
def savedText (path : String) : Except FileFault Unit → String
  | .ok () => "Timetable saved to " ++ path ++ "."
  | .error fault => "Error saving timetable: " ++ (FileError.io fault.message).message

variable {format : FileFormat} {entries : List Entry}

theorem writesFile_saveEntries {content : List Char}
    (made : contentOf format entries = .ok content) (path : String) :
    WritesFile path (Text.encodeUtf8 content) (saveEntries format path entries : m String) := by
  refine ⟨savedText path, ?_⟩
  rw [saveEntries, made]
  dsimp only
  refine congrArg _ (funext fun written => ?_)
  cases written <;> rfl

theorem writesNothing_saveEntries {error : FileError}
    (refused : contentOf format entries = .error error) (path : String) :
    WritesNothing (saveEntries format path entries : m String) :=
  ⟨"Error saving timetable: " ++ error.message, by rw [saveEntries, refused]⟩

end Console

namespace Snapshot
open Json (draft Decoder Fields)

theorem decoder_toJson {entries : List Entry} (small : ∀ entry ∈ entries, entry.period ≤ 255) :
    decoder (draft (toJson ⟨currentVersion, entries⟩)) = .ok ⟨currentVersion, entries⟩ := by
  have version : versionNumber (draft (.ofNat currentVersion)) = .ok currentVersion := rfl
  have written : Decode.entries (draft (Encode.entries entries)) = .ok entries :=
    Decode.list_encode fun entry member => Decode.entry_encode (small entry member)
  refine Fields.decoder_draft (by simp) (by simp) ?_
  simp [List.lookup, version, written]

theorem save_eq_ok_iff {entries : List Entry} {content : List Char} :
    save entries = .ok content ↔
      Entry.check entries = .ok () ∧ content = Json.pretty (toJson ⟨currentVersion, entries⟩) := by
  rw [save]
  cases Entry.check entries <;> simp [eq_comm]

theorem load_of_save {entries : List Entry} {content : List Char}
    (saved : save entries = .ok content) :
    load (Text.decodeUtf8 (Text.encodeUtf8 content)) = .ok entries := by
  obtain ⟨accepted, rfl⟩ := save_eq_ok_iff.mp saved
  have proper := (Entry.check_eq_ok_iff.mp accepted).1
  have small (entry : Entry) (member : entry ∈ entries) : entry.period ≤ 255 :=
    (proper entry member).1.2.trans (by decide)
  have read := Decoder.complete_written (decoder_toJson small) (.inr rfl)
  simp only [load, read, Nat.lt_irrefl, ↓reduceIte, accepted]

/-- Saving succeeds exactly if the check does. Then one file is written, which is loaded as the
same list; otherwise none is. -/
theorem load_save (entries : List Entry) {m : Type → Type} [Monad m] [Files m] (path : String) :
    ((∃ content, save entries = .ok content) ↔ Entry.check entries = .ok ()) ∧
      (∀ content, save entries = .ok content →
        Console.WritesFile path (Text.encodeUtf8 content)
            (Console.saveEntries .json path entries : m String) ∧
          load (Text.decodeUtf8 (Text.encodeUtf8 content)) = .ok entries) ∧
      ∀ error, save entries = .error error →
        Console.WritesNothing (Console.saveEntries .json path entries : m String) := by
  refine ⟨?_, fun content saved => ⟨?_, load_of_save saved⟩, fun error refused => ?_⟩
  · simp [save_eq_ok_iff]
  · have made : Console.contentOf .json entries = .ok content := saved
    exact Console.writesFile_saveEntries made path
  · have made : Console.contentOf .json entries = .error error := refused
    exact Console.writesNothing_saveEntries made path

/-- Classes with all kinds of texts, with a room that is there and empty. -/
def variegated : List Entry :=
  [⟨.tuesday, 9, "\"\\\n\x01\x7f", some "", some "#ff0000"⟩,
    ⟨.sunday, 1, " 数学😀", none, some "\t"⟩]

/-- A class in a tenth period. -/
def late : List Entry := [⟨.monday, 10, "数学", none, none⟩]

theorem load_save_variegated :
    Entry.check variegated = .ok () ∧
      (∃ content, save variegated = .ok content ∧
        load (Text.decodeUtf8 (Text.encodeUtf8 content)) = .ok variegated) ∧
      save late = .error (.data (.entryPeriod .monday 10)) ∧
      Console.WritesNothing (Console.saveEntries .json "week.json" late : StateM Disk String) := by
  have accepted : Entry.check variegated = .ok () := by decide +kernel
  have refused : save late = .error (.data (.entryPeriod .monday 10)) := by rfl
  obtain ⟨succeeds, loads, -⟩ := @load_save variegated (StateM Disk) _ _ "week.json"
  obtain ⟨content, saved⟩ := succeeds.mpr accepted
  exact ⟨accepted, ⟨content, saved, (loads content saved).2⟩, refused,
    (load_save late "week.json").2.2 _ refused⟩

end Snapshot

end SchoolWeek
