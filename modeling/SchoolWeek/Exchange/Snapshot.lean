import SchoolWeek.Exchange.Decode
import SchoolWeek.Exchange.Encode
import SchoolWeek.Exchange.FileError
import SchoolWeek.Timetable.Basic

/-! The JSON file of a timetable: a version number and the entries in the order
given. What is written passes the check of the timetable, and so does what is read. -/
namespace SchoolWeek

structure Snapshot where
  version : Nat
  entries : List Entry
  deriving DecidableEq, Repr

namespace Snapshot

/-- The version that is written, and the last one that is understood. -/
def currentVersion : Nat := 1

def versionNumber : Json.Decoder Nat := fun draft =>
  (Json.Decoder.integer 0 4294967295 draft).map Int.toNat

/-- A file without a version is of the current one. -/
def decoder : Json.Decoder Snapshot :=
  (Snapshot.mk <$> Json.Fields.withDefault "version" versionNumber currentVersion <*>
    Json.Fields.required "entries" Decode.entries).decoder

def toJson (snapshot : Snapshot) : Json :=
  .object [("version", .ofNat snapshot.version), ("entries", Encode.entries snapshot.entries)]

/-- The content of the file that keeps these entries. -/
def save (entries : List Entry) : Except FileError (List Char) :=
  match Entry.check entries with
  | .error error => .error (.data error)
  | .ok () => .ok (Json.pretty (toJson ⟨currentVersion, entries⟩))

/-- The entries in a file. The version is looked at before the entries are checked. -/
def load (text : Text.Gapped) : Except FileError (List Entry) :=
  match decoder.complete text with
  | .error error => .error (.json error)
  | .ok snapshot =>
    if currentVersion < snapshot.version then .error (.data (.snapshotVersion snapshot.version))
    else match Entry.check snapshot.entries with
      | .error error => .error (.data error)
      | .ok () => .ok snapshot.entries

end Snapshot
end SchoolWeek
