import SchoolWeek.Backend.Tables
import SchoolWeek.Exchange.Decode
import SchoolWeek.Exchange.Encode

/-! The file in which tables are kept between two runs. A file that is not of this form
holds no tables, but in a blank one they can be made. -/
namespace SchoolWeek.TableFile
open Json (Decoder DecodeError Fields)
open Json.Fields (required)

def schedule (row : String × String) : Json :=
  .object [("date", .text row.1), ("pattern_name", .text row.2)]

def row (row : StoredRow) : Json :=
  .object [
    ("date", .text row.date),
    ("source", .number row.source),
    ("target", .number row.target),
    ("source_period", .number row.sourcePeriod),
    ("target_period", .number row.targetPeriod),
    ("pattern_name", .text row.patternName)]

def event (event : StoredEvent) : Json :=
  .object [
    ("handle", .number event.handle),
    ("date", .text event.date),
    ("title", .text event.title),
    ("start", .text event.start),
    ("stop", .text event.stop),
    ("all_day", .bool event.allDay)]

def toJson (tables : Tables) : Json :=
  .object [
    ("entries", Encode.entries tables.entries),
    ("schedules", .array (tables.schedules.map schedule)),
    ("rows", .array (tables.rows.map row)),
    ("events", .array (tables.events.map event)),
    ("last_handle", .number tables.lastHandle)]

def scheduleDecoder : Decoder (String × String) :=
  (Prod.mk <$> required "date" Decoder.string <*>
    required "pattern_name" Decoder.string).decoder

def rowDecoder : Decoder StoredRow :=
  (StoredRow.mk <$> required "date" Decoder.string <*> required "source" Decode.handle <*>
    required "target" Decode.handle <*> required "source_period" Decode.handle <*>
    required "target_period" Decode.handle <*>
    required "pattern_name" Decoder.string).decoder

def eventDecoder : Decoder StoredEvent :=
  (StoredEvent.mk <$> required "handle" Decode.handle <*> required "date" Decoder.string <*>
    required "title" Decoder.string <*> required "start" Decoder.string <*>
    required "stop" Decoder.string <*> required "all_day" Decoder.bool).decoder

def decoder : Decoder Tables :=
  (Tables.mk <$> required "entries" Decode.entries <*>
    required "schedules" (Decoder.list scheduleDecoder) <*>
    required "rows" (Decoder.list rowDecoder) <*>
    required "events" (Decoder.list eventDecoder) <*>
    required "last_handle" Decode.handle).decoder

/-- The content of the file. -/
def write (tables : Tables) : List Char := Json.compact (toJson tables)

/-- A file of no more than a byte is as good as an empty one. -/
def isBlank (bytes : List UInt8) : Bool := bytes.length ≤ 1

/-- The tables in a file, if it is one of tables. -/
def read? (bytes : List UInt8) : Option Tables :=
  (decoder.complete (Text.decodeUtf8 bytes)).toOption

end SchoolWeek.TableFile
