import Mathlib
import SchoolWeek.Exchange.Decode
import SchoolWeek.Exchange.Encode
import SchoolWeek.Proofs.DateText
import SchoolWeek.Proofs.JsonFields

/-! Values that are exchanged as JSON. What a decoder makes of any text is written and decoded
to itself, and the text it was made of was well formed: each field that holds a weekday or a
period was given once, as a number in its bounds, and the two lists of a remap were equally
long. -/
namespace SchoolWeek

open Json (Draft Decoder Fields draft)

namespace Json

/-- A whole number within bounds. -/
def Draft.IsNumber (low high : Int) (item : Draft) : Prop :=
  ∃ number, item = .number (.whole number) ∧ low ≤ number ∧ number ≤ high

def Draft.IsWeekday (item : Draft) : Prop := item.IsNumber 0 6

def Draft.IsPeriod (item : Draft) : Prop := item.IsNumber 1 9

/-- An array of so many items of a kind. -/
def Draft.IsListOf (IsPart : Draft → Prop) (count : Nat) (item : Draft) : Prop :=
  ∃ items, item = .array items true ∧ items.length = count ∧ ∀ part ∈ items, IsPart part

end Json

/-- A kind of value that is exchanged. -/
inductive Wire
  | remap | segment | row | record | entry | slot | marker | event
  deriving DecidableEq, Repr

namespace Wire

def Value : Wire → Type
  | remap => Remap
  | segment => Segment
  | row => Row
  | record => Record
  | entry => Entry
  | slot => Slot
  | marker => Marker
  | event => Event

def encode : (wire : Wire) → wire.Value → Json
  | remap => Encode.remap
  | segment => Encode.segment
  | row => Encode.row
  | record => Encode.record
  | entry => Encode.entry
  | slot => Encode.slot
  | marker => Encode.marker
  | event => Encode.event

def decoder : (wire : Wire) → Decoder wire.Value
  | remap => Decode.remap
  | segment => Decode.segment
  | row => Decode.row
  | record => Decode.record
  | entry => Decode.entry
  | slot => Decode.slot
  | marker => Decode.marker
  | event => Decode.event

/-- The fields of a kind of value, in the order in which an array gives them. -/
def names : Wire → List String
  | remap => ["original_day", "target_day", "original_periods", "target_periods"]
  | segment => ["day", "periods"]
  | row => ["original_day", "target_day", "original_period", "target_period", "pattern_name"]
  | record => ["date", "pattern_name", "rows"]
  | entry => ["day", "period", "subject", "room", "color"]
  | slot => ["day", "period", "subject", "room", "color", "is_special", "original_info"]
  | marker => ["pattern_name", "handle"]
  | event => ["handle", "date", "title", "start", "end", "all_day"]

/-- The field is given once, with a value of this kind. -/
def Gives (wire : Wire) (item : Draft) (name : String) (IsKind : Draft → Prop) : Prop :=
  ∃ value, Fields.given wire.names item name = [value] ∧ IsKind value

def IsRow (item : Draft) : Prop :=
  row.Gives item "original_day" Draft.IsWeekday ∧ row.Gives item "target_day" Draft.IsWeekday ∧
    row.Gives item "original_period" Draft.IsPeriod ∧
    row.Gives item "target_period" Draft.IsPeriod

/-- Every weekday and every period is in its bounds, and periods are paired off. -/
def WellFormed : Wire → Draft → Prop
  | remap, item =>
    remap.Gives item "original_day" Draft.IsWeekday ∧
      remap.Gives item "target_day" Draft.IsWeekday ∧
      ∃ count, remap.Gives item "original_periods" (Draft.IsListOf Draft.IsPeriod count) ∧
        remap.Gives item "target_periods" (Draft.IsListOf Draft.IsPeriod count)
  | segment, item =>
    segment.Gives item "day" Draft.IsWeekday ∧
      ∃ count, segment.Gives item "periods" (Draft.IsListOf Draft.IsPeriod count)
  | row, item => IsRow item
  | record, item => ∃ count, record.Gives item "rows" (Draft.IsListOf IsRow count)
  | entry, item => entry.Gives item "day" Draft.IsWeekday
  | slot, item => slot.Gives item "day" Draft.IsWeekday
  | marker, _ => True
  | event, _ => True

end Wire

namespace Decode

theorem byte_ofNat {number : Nat} (small : number ≤ 255) :
    Decoder.byte (draft (.ofNat number)) = .ok number := by
  refine Decoder.byte_eq_ok_iff.mpr ⟨?_, small⟩
  rw [Json.ofNat, draft, Json.ofChars_signedDecimal (by omega) (by omega)]

theorem mondayWeekday_encode (day : Weekday) :
    mondayWeekday (draft (Encode.mondayWeekday day)) = .ok day := by
  refine Decoder.checked_eq_ok_iff.mpr ⟨day.mondayIndex, byte_ofNat ?_, ?_⟩
  · cases day <;> decide
  · rw [ofMondayNumber, Weekday.ofMondayIndex?_mondayIndex]

theorem sundayWeekday_encode (day : Weekday) :
    sundayWeekday (draft (Encode.sundayWeekday day)) = .ok day := by
  refine Decoder.checked_eq_ok_iff.mpr ⟨day.sundayIndex, byte_ofNat ?_, ?_⟩
  · cases day <;> decide
  · rw [ofSundayNumber, Weekday.ofSundayIndex?_sundayIndex]

theorem period_encode (value : Period) : period (draft (Encode.period value)) = .ok value := by
  have last := value.le_nine
  refine Decoder.checked_eq_ok_iff.mpr ⟨value.number, byte_ofNat (by omega), ?_⟩
  rw [ofPeriodNumber, Period.ofNat?_number]

theorem list_encode {α : Type} {write : α → Json} {decoder : Decoder α} {values : List α}
    (inverse : ∀ value ∈ values, decoder (draft (write value)) = .ok value) :
    Decoder.list decoder (draft (.array (values.map write))) = .ok values := by
  refine Decoder.list_eq_ok_iff.mpr ⟨_, rfl, ?_⟩
  induction values with
  | nil => exact .nil
  | cons value values ih =>
    exact .cons (inverse value List.mem_cons_self)
      (ih fun other member => inverse other (List.mem_cons_of_mem value member))

theorem periods_encode (values : List Period) :
    periods (draft (Encode.periods values)) = .ok values :=
  list_encode fun value _ => period_encode value

theorem string_encode (text : String) : Decoder.string (draft (.text text)) = .ok text := rfl

theorem bool_encode (flag : Bool) : Decoder.bool (draft (.bool flag)) = .ok flag := rfl

/-- The numbers that an event can have. -/
def IsHandle (number : Int) : Prop :=
  -9223372036854775808 ≤ number ∧ number ≤ 9223372036854775807

theorem handle_encode {number : Int} (isHandle : IsHandle number) :
    handle (draft (.number number)) = .ok number := by
  have low := isHandle.1
  have high := isHandle.2
  refine Decoder.integer_eq_ok_iff.mpr ⟨?_, low, high⟩
  rw [draft, Json.ofChars_signedDecimal (by omega) (by omega)]

theorem date_encode (value : Date) : date (draft (Encode.date value)) = .ok value := by
  have read : Date.readRelaxed value.text = .ok value := by
    rw [Date.readRelaxed, Date.text, String.toList_ofList, Date.readWith_toChars]
  refine Decoder.checked_eq_ok_iff.mpr ⟨value.text, rfl, ?_⟩
  rw [read]
  rfl

theorem timestamp_encode (value : Timestamp) :
    timestamp (draft (.text value.text)) = .ok value := by
  refine Decoder.checked_eq_ok_iff.mpr ⟨value.text, rfl, ?_⟩
  rw [Timestamp.readRelaxed_text]
  rfl

instance : remapFields.Faithful := by
  unfold remapFields
  infer_instance

instance : entryFields.Faithful := by
  unfold entryFields
  infer_instance

theorem segment_encode (value : Segment) : segment (draft (Encode.segment value)) = .ok value := by
  refine Fields.decoder_draft (by simp) (by simp) ?_
  simp [List.lookup, mondayWeekday_encode, periods_encode]

theorem remap_encode (value : Remap) : remap (draft (Encode.remap value)) = .ok value := by
  refine Decoder.checked_eq_ok_iff.mpr
    ⟨(value.source, value.target, value.sourcePeriods, value.targetPeriods), ?_, ?_⟩
  · refine Fields.decoder_draft (by simp) (by simp [remapFields]) ?_
    simp [remapFields, List.lookup, mondayWeekday_encode, periods_encode]
  · simp [pairUp, Remap.ofPeriods?_periods]

theorem row_encode (value : Row) : row (draft (Encode.row value)) = .ok value := by
  refine Fields.decoder_draft (by simp) (by simp) ?_
  simp [List.lookup, mondayWeekday_encode, period_encode, string_encode]

theorem record_encode (value : Record) : record (draft (Encode.record value)) = .ok value := by
  have storedRows : rows (draft (Encode.rows value.rows)) = .ok value.rows :=
    list_encode fun row _ => row_encode row
  refine Fields.decoder_draft (by simp) (by simp) ?_
  simp [List.lookup, date_encode, string_encode, storedRows]

theorem optional_encode (text : String) :
    Decoder.optional Decoder.string (draft (.text text)) = .ok (some text) := rfl

theorem entry_encode {value : Entry} (small : value.period ≤ 255) :
    entry (draft (Encode.entry value)) = .ok value := by
  obtain ⟨day, period, subject, room?, color?⟩ := value
  refine Fields.decoder_draft ?_ ?_ ?_
  · cases room? <;> cases color? <;> simp [Encode.entryMembers, Json.optional]
  · cases room? <;> cases color? <;> simp [Encode.entryMembers, Json.optional, entryFields]
  · cases room? <;> cases color? <;>
      simp [Encode.entryMembers, Json.optional, entryFields, List.lookup, sundayWeekday_encode,
        byte_ofNat small, string_encode, optional_encode]

theorem slot_encode {value : Slot} (small : value.period ≤ 255) :
    slot (draft (Encode.slot value)) = .ok value := by
  obtain ⟨⟨day, period, subject, room?, color?⟩, isSpecial, origin?⟩ := value
  refine Fields.decoder_draft ?_ ?_ ?_
  · cases room? <;> cases color? <;> cases origin? <;> simp [Encode.entryMembers, Json.optional]
  · cases room? <;> cases color? <;> cases origin? <;>
      simp [Encode.entryMembers, Json.optional, entryFields]
  · cases room? <;> cases color? <;> cases origin? <;>
      simp [Encode.entryMembers, Json.optional, entryFields, List.lookup, sundayWeekday_encode,
        byte_ofNat small, string_encode, bool_encode, optional_encode]

theorem marker_encode {value : Marker} (isHandle : IsHandle value.handle) :
    marker (draft (Encode.marker value)) = .ok value := by
  refine Fields.decoder_draft (by simp) (by simp) ?_
  simp [List.lookup, string_encode, handle_encode isHandle]

theorem event_encode {value : Event} (isHandle : IsHandle value.handle) :
    event (draft (Encode.event value)) = .ok value := by
  refine Fields.decoder_draft (by simp) (by simp) ?_
  simp [List.lookup, string_encode, bool_encode, date_encode, timestamp_encode,
    handle_encode isHandle]

section Accepted

variable {item : Draft}

theorem isNumber_of_byte {number low high : Nat} (read : Decoder.byte item = .ok number)
    (bounds : low ≤ number ∧ number ≤ high) : item.IsNumber low high := by
  obtain ⟨rfl, -⟩ := Decoder.byte_eq_ok_iff.mp read
  exact ⟨number, rfl, by omega, by omega⟩

theorem isWeekday_of_monday {day : Weekday} (accepted : mondayWeekday item = .ok day) :
    item.IsWeekday := by
  obtain ⟨number, read, named⟩ := Decoder.checked_eq_ok_iff.mp accepted
  rw [ofMondayNumber] at named
  split at named
  · rename_i other found
    have same := List.find?_some found
    refine isNumber_of_byte read ⟨Nat.zero_le _, ?_⟩
    rw [← eq_of_beq same]
    cases other <;> decide
  · cases named

theorem isWeekday_of_sunday {day : Weekday} (accepted : sundayWeekday item = .ok day) :
    item.IsWeekday := by
  obtain ⟨number, read, named⟩ := Decoder.checked_eq_ok_iff.mp accepted
  rw [ofSundayNumber] at named
  split at named
  · rename_i found
    have same := List.find?_some found
    refine isNumber_of_byte read ⟨Nat.zero_le _, ?_⟩
    rw [← eq_of_beq same]
    exact Nat.le_of_lt_succ (Nat.mod_lt _ (by decide))
  · cases named

theorem isPeriod_of_period {value : Period} (accepted : period item = .ok value) :
    item.IsPeriod := by
  obtain ⟨number, read, named⟩ := Decoder.checked_eq_ok_iff.mp accepted
  rw [ofPeriodNumber] at named
  split at named
  · rename_i other found
    obtain rfl := Period.ofNat?_eq_some_iff.mp found
    exact isNumber_of_byte read ⟨other.one_le, other.le_nine⟩
  · cases named

theorem isListOf_of_list {α : Type} {decoder : Decoder α} {IsPart : Draft → Prop}
    (isPart : ∀ part value, decoder part = .ok value → IsPart part) {values : List α}
    (accepted : Decoder.list decoder item = .ok values) : item.IsListOf IsPart values.length := by
  obtain ⟨items, rfl, decoded⟩ := Decoder.list_eq_ok_iff.mp accepted
  have good := decoded.imp fun part value read => And.intro (isPart part value read) read
  exact ⟨items, rfl, decoded.length_eq, ((List.forall₂_and_left items values).mp good).1⟩

end Accepted

end Decode

namespace Wire
open Decode

/-- The values that are decoded to what they are written for. -/
def Fits : (wire : Wire) → wire.Value → Prop
  | entry, value => Entry.period value ≤ 255
  | slot, value => Entry.period (Slot.toEntry value) ≤ 255
  | marker, value => IsHandle (Marker.handle value)
  | event, value => IsHandle (Event.handle value)
  | _, _ => True

theorem decoder_encode : (wire : Wire) → (value : wire.Value) → wire.Fits value →
    wire.decoder (draft (wire.encode value)) = .ok value
  | remap, value, _ => remap_encode value
  | segment, value, _ => segment_encode value
  | row, value, _ => row_encode value
  | record, value, _ => record_encode value
  | entry, _, fits => entry_encode fits
  | slot, _, fits => slot_encode fits
  | marker, _, fits => marker_encode fits
  | event, _, fits => event_encode fits

section Accepted

variable {item : Draft} {α β : Type} {fields : Fields α} {value : α}

/-- A field that goes into an accepted value is given once. -/
theorem gives_of_accepted (wire : Wire) (accepted : fields.decoder item = .ok value)
    (named : fields.names = wire.names) {name : String} (known : name ∈ wire.names)
    {decoder : Decoder β} {part : β} {IsKind : Draft → Prop}
    (used : ∃ inner, (Fields.given fields.names item name).head? = some inner ∧
      decoder inner = .ok part)
    (isKind : ∀ inner, decoder inner = .ok part → IsKind inner) : wire.Gives item name IsKind := by
  have distinct : wire.names.Nodup := by cases wire <;> decide
  obtain ⟨inner, found, decoded⟩ := used
  rw [← named] at distinct known
  have once := Fields.given_of_accepted distinct accepted known found
  rw [named] at once
  exact ⟨inner, once, isKind inner decoded⟩

theorem wellFormed_of_segment {value : Segment} (accepted : Decode.segment item = .ok value) :
    segment.WellFormed item := by
  have built := (Fields.decoder_eq_ok_iff.mp accepted).2
  simp only [Fields.build_seq_iff, Fields.build_map_iff, Fields.build_required_iff] at built
  obtain ⟨_, _, ⟨_, day, -⟩, periods, -⟩ := built
  exact ⟨gives_of_accepted segment accepted rfl (by decide) day fun _ => isWeekday_of_monday, _,
    gives_of_accepted segment accepted rfl (by decide) periods fun _ =>
      isListOf_of_list fun _ _ => isPeriod_of_period⟩

theorem isRow_of_row {value : Row} (accepted : Decode.row item = .ok value) : IsRow item := by
  have built := (Fields.decoder_eq_ok_iff.mp accepted).2
  simp only [Fields.build_seq_iff, Fields.build_map_iff, Fields.build_required_iff] at built
  obtain ⟨_, _, ⟨_, _, ⟨_, _, ⟨_, _, ⟨_, source, -⟩, target, -⟩, sourcePeriod, -⟩, targetPeriod, -⟩,
    -, -⟩ := built
  exact ⟨gives_of_accepted row accepted rfl (by decide) source fun _ => isWeekday_of_monday,
    gives_of_accepted row accepted rfl (by decide) target fun _ => isWeekday_of_monday,
    gives_of_accepted row accepted rfl (by decide) sourcePeriod fun _ => isPeriod_of_period,
    gives_of_accepted row accepted rfl (by decide) targetPeriod fun _ => isPeriod_of_period⟩

theorem wellFormed_of_record {value : Record} (accepted : Decode.record item = .ok value) :
    record.WellFormed item := by
  have built := (Fields.decoder_eq_ok_iff.mp accepted).2
  simp only [Fields.build_seq_iff, Fields.build_map_iff, Fields.build_required_iff] at built
  obtain ⟨_, _, -, rows, -⟩ := built
  exact ⟨_, gives_of_accepted record accepted rfl (by decide) rows fun _ =>
    isListOf_of_list fun _ _ => isRow_of_row⟩

theorem wellFormed_of_remap {value : Remap} (accepted : Decode.remap item = .ok value) :
    remap.WellFormed item := by
  obtain ⟨⟨source, target, sources, targets⟩, accepted, paired⟩ :=
    Decoder.checked_eq_ok_iff.mp accepted
  have even : sources.length = targets.length := by
    by_contra uneven
    rw [pairUp, Remap.ofPeriods?, if_neg uneven] at paired
    cases paired
  have built := (Fields.decoder_eq_ok_iff.mp accepted).2
  simp only [remapFields, Fields.build_seq_iff, Fields.build_map_iff,
    Fields.build_required_iff] at built
  obtain ⟨_, _, ⟨_, _, ⟨_, _, ⟨_, isSource, rfl⟩, isTarget, rfl⟩, areSources, rfl⟩, areTargets,
    same⟩ := built
  cases same
  refine ⟨gives_of_accepted remap accepted rfl (by decide) isSource fun _ => isWeekday_of_monday,
    gives_of_accepted remap accepted rfl (by decide) isTarget fun _ => isWeekday_of_monday,
    sources.length, gives_of_accepted remap accepted rfl (by decide) areSources fun _ =>
      isListOf_of_list fun _ _ => isPeriod_of_period, ?_⟩
  rw [even]
  exact gives_of_accepted remap accepted rfl (by decide) areTargets fun _ =>
    isListOf_of_list fun _ _ => isPeriod_of_period

theorem day_of_entryFields {find : String → Option Draft} {value : Entry}
    (built : entryFields.build find = .ok value) :
    (∃ inner, find "day" = some inner ∧ sundayWeekday inner = .ok value.day) ∧
      value.period ≤ 255 := by
  simp only [entryFields, Fields.build_seq_iff, Fields.build_map_iff,
    Fields.build_required_iff] at built
  obtain ⟨_, _, ⟨_, _, ⟨_, _, ⟨_, _, ⟨_, day, rfl⟩, ⟨_, -, period⟩, rfl⟩, -, rfl⟩, -, rfl⟩, -,
    rfl⟩ := built
  exact ⟨day, (Decoder.byte_eq_ok_iff.mp period).2⟩

theorem wellFormed_of_entry {value : Entry} (accepted : Decode.entry item = .ok value) :
    entry.WellFormed item ∧ entry.Fits value := by
  obtain ⟨day, small⟩ := day_of_entryFields (Fields.decoder_eq_ok_iff.mp accepted).2
  exact ⟨gives_of_accepted entry accepted rfl (by decide) day fun _ => isWeekday_of_sunday, small⟩

theorem wellFormed_of_slot {value : Slot} (accepted : Decode.slot item = .ok value) :
    slot.WellFormed item ∧ slot.Fits value := by
  have built := (Fields.decoder_eq_ok_iff.mp accepted).2
  simp only [Fields.build_seq_iff, Fields.build_map_iff] at built
  obtain ⟨_, _, ⟨_, _, ⟨_, entryBuilt, rfl⟩, -, rfl⟩, -, rfl⟩ := built
  obtain ⟨day, small⟩ := day_of_entryFields entryBuilt
  exact ⟨gives_of_accepted slot accepted rfl (by decide) day fun _ => isWeekday_of_sunday, small⟩

theorem fits_of_marker {value : Marker} (accepted : Decode.marker item = .ok value) :
    marker.Fits value := by
  have built := (Fields.decoder_eq_ok_iff.mp accepted).2
  simp only [Fields.build_seq_iff, Fields.build_map_iff, Fields.build_required_iff] at built
  obtain ⟨_, _, ⟨_, -, rfl⟩, ⟨_, -, decoded⟩, rfl⟩ := built
  exact (Decoder.integer_eq_ok_iff.mp decoded).2

theorem fits_of_event {value : Event} (accepted : Decode.event item = .ok value) :
    event.Fits value := by
  have built := (Fields.decoder_eq_ok_iff.mp accepted).2
  simp only [Fields.build_seq_iff, Fields.build_map_iff, Fields.build_required_iff] at built
  obtain ⟨_, _, ⟨_, _, ⟨_, _, ⟨_, _, ⟨_, _, ⟨_, ⟨_, -, decoded⟩, rfl⟩, -, rfl⟩, -, rfl⟩, -, rfl⟩, -,
    rfl⟩, -, rfl⟩ := built
  exact (Decoder.integer_eq_ok_iff.mp decoded).2

theorem of_accepted : (wire : Wire) → {value : wire.Value} → wire.decoder item = .ok value →
    wire.WellFormed item ∧ wire.Fits value
  | remap, _, accepted => ⟨wellFormed_of_remap accepted, trivial⟩
  | segment, _, accepted => ⟨wellFormed_of_segment accepted, trivial⟩
  | row, _, accepted => ⟨isRow_of_row accepted, trivial⟩
  | record, _, accepted => ⟨wellFormed_of_record accepted, trivial⟩
  | entry, _, accepted => wellFormed_of_entry accepted
  | slot, _, accepted => wellFormed_of_slot accepted
  | marker, _, accepted => ⟨trivial, fits_of_marker accepted⟩
  | event, _, accepted => ⟨trivial, fits_of_event accepted⟩

end Accepted

/-- A reader takes the value from the text, whether it minds what comes after it or not. -/
def Accepts (wire : Wire) (text : Text.Gapped) (value : wire.Value) : Prop :=
  wire.decoder.complete text = .ok value ∨ wire.decoder.leading text = .ok value

theorem Accepts.decoded {wire : Wire} {text : Text.Gapped} {value : wire.Value}
    (accepted : wire.Accepts text value) : wire.decoder (Json.read text).1 = .ok value := by
  rcases accepted with alone | leading
  · exact (Decoder.complete_eq_ok_iff.mp alone).1
  · exact leading

/-- Whatever value is taken from a text, it is the same after being written and read, and the
text was well formed; a text that is not well formed is refused. -/
theorem round_trip (wire : Wire) (text : Text.Gapped) :
    (∀ value, wire.Accepts text value →
      wire.WellFormed (Json.read text).1 ∧
        ∀ written, written = (wire.encode value).compact ∨ written = (wire.encode value).pretty →
          wire.decoder.complete (Text.decodeUtf8 (Text.encodeUtf8 written)) = .ok value) ∧
      (¬wire.WellFormed (Json.read text).1 →
        (∃ error, wire.decoder.complete text = .error error) ∧
          ∃ error, wire.decoder.leading text = .error error) := by
  refine ⟨fun value accepted => ?_, fun illFormed => ⟨?_, ?_⟩⟩
  · obtain ⟨wellFormed, fits⟩ := of_accepted wire accepted.decoded
    exact ⟨wellFormed, fun _ => Decoder.complete_written (decoder_encode wire value fits)⟩
  · cases read : wire.decoder.complete text with
    | error error => exact ⟨error, rfl⟩
    | ok value =>
      have accepted : wire.Accepts text value := .inl read
      exact (illFormed (of_accepted wire accepted.decoded).1).elim
  · cases read : wire.decoder.leading text with
    | error error => exact ⟨error, rfl⟩
    | ok value =>
      have accepted : wire.Accepts text value := .inr read
      exact (illFormed (of_accepted wire accepted.decoded).1).elim

/-- An event in a far year, with a fraction of a second. -/
def farEvent : Event :=
  ⟨5, ⟨12025, 3, 1, by decide⟩, "a\"b",
    ⟨⟨12025, 3, 1, by decide⟩, ⟨8, 30, 0, 500000000, by decide⟩⟩,
    ⟨⟨-44, 3, 15, by decide⟩, .midnight⟩, false⟩

def farEventText : String :=
  "[5, \"+12025-03-01\", \"a\\\"b\", \"+12025-03-01T08:30:00.5\", \"-0044-3-15T0:0:00\", false]"

/-- A remap with one target period for two source periods. -/
def unevenText : String :=
  "\x7b\"original_day\": 0, \"target_day\": 6, \"original_periods\": [1, 2], \"target_periods\": [3]\x7d"

theorem unevenText_illFormed : ¬remap.WellFormed (Json.read (Text.gapped unevenText)).1 := by
  rintro ⟨-, -, count, ⟨_, givenSources, sources, rfl, length, -⟩,
    ⟨_, givenTargets, targets, rfl, sameLength, -⟩⟩
  have two : Fields.given remap.names (Json.read (Text.gapped unevenText)).1 "original_periods" =
      [.array [.number (.whole 1), .number (.whole 2)] true] := by rfl
  have one : Fields.given remap.names (Json.read (Text.gapped unevenText)).1 "target_periods" =
      [.array [.number (.whole 3)] true] := by rfl
  rw [two] at givenSources
  rw [one] at givenTargets
  cases givenSources
  cases givenTargets
  exact absurd (length.trans sameLength.symm) (by decide)

theorem round_trip_farEvent :
    event.Accepts (Text.gapped farEventText) farEvent ∧
      Decode.event.complete (Text.decodeUtf8 (Text.encodeUtf8 (Encode.event farEvent).pretty)) =
        .ok farEvent ∧
      ¬remap.WellFormed (Json.read (Text.gapped unevenText)).1 ∧
      ∃ error, Decode.remap.complete (Text.gapped unevenText) = .error error := by
  have accepted : event.Accepts (Text.gapped farEventText) farEvent := by
    refine .inl ?_
    show Decode.event.complete (Text.gapped farEventText) = .ok farEvent
    decide +kernel
  exact ⟨accepted, ((round_trip event _).1 farEvent accepted).2 _ (.inr rfl), unevenText_illFormed,
    ((round_trip remap _).2 unevenText_illFormed).1⟩

end Wire

end SchoolWeek
