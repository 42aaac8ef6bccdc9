import SchoolWeek.Json.Decode
import SchoolWeek.Calendar.Event
import SchoolWeek.Pattern.Kind
import SchoolWeek.Remap.Row
import SchoolWeek.Timetable.DataError
import SchoolWeek.Timetable.Entry

/-! Reading back the JSON forms of what the program exchanges. -/
namespace SchoolWeek.Decode
open Json (Draft DecodeError Decoder Fields)
open Json.Fields (required optional withDefault)

/-- The sentence for a number that is no weekday in the numbering named. -/
def weekdayRange (numbering : String) (value : Nat) : String :=
  numbering ++ " weekday " ++ String.ofList (Text.decimal value) ++ " out of range 0..=6"

def ofMondayNumber (value : Nat) : Except DecodeError Weekday :=
  match Weekday.ofMondayIndex? value with
  | some day => .ok day
  | none => .error (.refused (weekdayRange "logical" value))

def ofSundayNumber (value : Nat) : Except DecodeError Weekday :=
  match Weekday.ofSundayIndex? value with
  | some day => .ok day
  | none => .error (.refused (weekdayRange "calendar" value))

def ofPeriodNumber (value : Nat) : Except DecodeError Period :=
  match Period.ofNat? value with
  | some period => .ok period
  | none => .error (.refused (DataError.periodRange value))

def mondayWeekday : Decoder Weekday := Decoder.checked Decoder.byte ofMondayNumber

def sundayWeekday : Decoder Weekday := Decoder.checked Decoder.byte ofSundayNumber

def period : Decoder Period := Decoder.checked Decoder.byte ofPeriodNumber

def periods : Decoder (List Period) := Decoder.list period

/-- A number that names an event, of 64 bits. -/
def handle : Decoder Int := Decoder.integer (-9223372036854775808) 9223372036854775807

def date : Decoder Date := Decoder.checked Decoder.string fun text =>
  (Date.readRelaxed text).mapError fun _ => .shape

def timestamp : Decoder Timestamp := Decoder.checked Decoder.string fun text =>
  (Timestamp.readRelaxed text).mapError fun _ => .shape

def kindOfCode (code : String) : Except DecodeError Kind :=
  match Kind.all.find? (·.code == code) with
  | some kind => .ok kind
  | none => .error .shape

/-- The code of a kind, alone or as the name of an object's only member, which is null. -/
def kind : Decoder Kind
  | .object ((some code, value) :: rest) closed => do
    let kind ← kindOfCode code
    match value with
    | .null => if rest.isEmpty && closed then return kind else throw .malformed
    | value => throw (Decoder.mismatch value)
  | .object _ _ => .error .malformed
  | draft => Decoder.checked Decoder.string kindOfCode draft

def segment : Decoder Segment :=
  (Segment.mk <$> required "day" mondayWeekday <*> required "periods" periods).decoder

/-- The sentence for lists of periods of different length. -/
def unevenPeriods (sources targets : Nat) : String :=
  "original_periods has " ++ String.ofList (Text.decimal sources) ++
    " entries but target_periods has " ++ String.ofList (Text.decimal targets)

/-- The four fields of a remap; there are as many source periods as target periods. -/
def pairUp (fields : Weekday × Weekday × List Period × List Period) : Except DecodeError Remap :=
  let (source, target, sources, targets) := fields
  match Remap.ofPeriods? source target sources targets with
  | some remap => .ok remap
  | none => .error (.refused (unevenPeriods sources.length targets.length))

def remapFields : Fields (Weekday × Weekday × List Period × List Period) :=
  (fun source target sources targets => (source, target, sources, targets)) <$>
    required "original_day" mondayWeekday <*> required "target_day" mondayWeekday <*>
    required "original_periods" periods <*> required "target_periods" periods

def remap : Decoder Remap := Decoder.checked remapFields.decoder pairUp

def remaps : Decoder (List Remap) := Decoder.list remap

def row : Decoder Row :=
  (Row.mk <$> required "original_day" mondayWeekday <*> required "target_day" mondayWeekday <*>
    required "original_period" period <*> required "target_period" period <*>
    required "pattern_name" Decoder.string).decoder

def rows : Decoder (List Row) := Decoder.list row

def record : Decoder Record :=
  (Record.mk <$> required "date" date <*> required "pattern_name" Decoder.string <*>
    required "rows" rows).decoder

def entryFields : Fields Entry :=
  Entry.mk <$> required "day" sundayWeekday <*> required "period" Decoder.byte <*>
    required "subject" Decoder.string <*> optional "room" Decoder.string <*>
    optional "color" Decoder.string

def entry : Decoder Entry := entryFields.decoder

def entries : Decoder (List Entry) := Decoder.list entry

def slot : Decoder Slot :=
  (Slot.mk <$> entryFields <*> withDefault "is_special" Decoder.bool false <*>
    optional "original_info" Decoder.string).decoder

def slots : Decoder (List Slot) := Decoder.list slot

def marker : Decoder Marker :=
  (Marker.mk <$> required "pattern_name" Decoder.string <*> required "handle" handle).decoder

def event : Decoder Event :=
  (Event.mk <$> required "handle" handle <*> required "date" date <*>
    required "title" Decoder.string <*> required "start" timestamp <*>
    required "end" timestamp <*> required "all_day" Decoder.bool).decoder

end SchoolWeek.Decode
