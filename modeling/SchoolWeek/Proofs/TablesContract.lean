import Mathlib
import SchoolWeek.Proofs.Contract
import SchoolWeek.Proofs.DateText

/-! The backend of tables keeps its contract. What the program itself writes into the
tables are records and full-day events in their written form, at most one record for a
date, and all of it can be read back. The text of a date is its key, so what is done
under one key touches no other date. -/
namespace SchoolWeek

theorem Event.fullDay_whole {handle : Int} {date : Date} {title : String} {event : Event}
    (made : fullDay handle date title = .ok event) :
    event.start.time.nanosecond = 0 ∧ event.stop.time.nanosecond = 0 := by
  unfold fullDay at made
  split at made
  · cases made
  · cases made
    exact ⟨rfl, rfl⟩

/-- Reading what was written gives back the list that was written. -/
theorem mapM_map_eq_ok {α β ε : Type} {write : α → β} {read : β → Except ε α} {list : List α}
    (inverse : ∀ item ∈ list, read (write item) = .ok item) :
    (list.map write).mapM read = .ok list := by
  induction list with
  | nil => rfl
  | cons item rest ih =>
    have tail := ih fun other member => inverse other (List.mem_cons_of_mem item member)
    rw [List.map_cons, List.mapM_cons, inverse item (by simp), tail]
    rfl

theorem StoredRow.toRow_ofRow (date : Date) (row : Row) : toRow (ofRow date row) = .ok row := by
  have day (value : Weekday) : weekday (value.mondayIndex : Int) = .ok value := by
    simp [weekday, Weekday.ofMondayIndex?_mondayIndex]
  have hour (value : Period) : period (value.number : Int) = .ok value := by
    simp [period, Period.ofNat?_number]
  simp only [toRow, ofRow, day, hour, bind, Except.bind, pure, Except.pure]

theorem StoredEvent.toEvent_ofEvent {event : Event}
    (whole : event.start.time.nanosecond = 0 ∧ event.stop.time.nanosecond = 0) :
    toEvent event.date (ofEvent event) = .ok event := by
  have stamp {value : Timestamp} (seconds : value.time.nanosecond = 0) :
      timestamp value.text = .ok value := by
    rw [timestamp, Timestamp.read_text seconds]
  simp only [toEvent, ofEvent, stamp whole.1, stamp whole.2, bind, Except.bind, pure, Except.pure]

namespace Tables

/-- The tables hold these records and events in their written form, and nothing else. -/
structure Holds (tables : Tables) (records : List Record) (events : List Event) : Prop where
  schedules : tables.schedules = records.map fun record => (record.date.text, record.patternName)
  rows : tables.rows = records.flatMap fun record => record.rows.map (StoredRow.ofRow record.date)
  distinct : (records.map Record.date).Nodup
  fresh : ∀ event ∈ events, event.handle ≤ tables.lastHandle
  events : tables.events = events.map StoredEvent.ofEvent

variable {tables : Tables} {records : List Record} {events : List Event}

theorem holds_empty : Tables.empty.Holds [] [] :=
  ⟨rfl, rfl, List.nodup_nil, fun _ member => absurd member List.not_mem_nil, rfl⟩

theorem lookup_schedules (records : List Record) (date : Date) :
    (records.map fun record => (record.date.text, record.patternName)).lookup date.text =
      (records.find? (·.date == date)).map Record.patternName := by
  induction records with
  | nil => rfl
  | cons record rest ih =>
    by_cases same : record.date = date
    · simp [same]
    · have keys : (date.text == record.date.text) = false := by simpa using Ne.symm same
      rw [List.map_cons, List.lookup_cons, keys, ih, List.find?_cons_of_neg (by simpa using same)]

/-- As a date has one record, the rows under its key are the rows of that record. -/
theorem filter_rows {records : List Record} (distinct : (records.map Record.date).Nodup)
    (date : Date) :
    (records.flatMap fun record => record.rows.map (StoredRow.ofRow record.date)).filter
        (·.date == date.text) =
      (((records.find? (·.date == date)).map Record.rows).getD []).map (StoredRow.ofRow date) := by
  induction records with
  | nil => rfl
  | cons record rest ih =>
    obtain ⟨alone, distinctRest⟩ := List.nodup_cons.mp distinct
    rw [List.flatMap_cons, List.filter_append, ih distinctRest]
    by_cases same : record.date = date
    · subst same
      have absent : rest.find? (·.date == record.date) = none := by
        refine List.find?_eq_none.mpr fun other member equal => alone ?_
        rw [← (by simpa using equal : other.date = record.date)]
        exact List.mem_map_of_mem member
      have all : (record.rows.map (StoredRow.ofRow record.date)).filter
          (·.date == record.date.text) = record.rows.map (StoredRow.ofRow record.date) := by
        refine List.filter_eq_self.mpr fun stored member => ?_
        obtain ⟨row, _, rfl⟩ := List.mem_map.mp member
        simp [StoredRow.ofRow]
      simp [absent, all]
    · have none : (record.rows.map (StoredRow.ofRow record.date)).filter
          (·.date == date.text) = [] := by
        refine List.filter_eq_nil_iff.mpr fun stored member => ?_
        obtain ⟨row, _, rfl⟩ := List.mem_map.mp member
        simpa [StoredRow.ofRow] using same
      rw [none, List.nil_append, List.find?_cons_of_neg (by simpa using same)]

theorem Holds.rowsOn (holds : tables.Holds records events) (date : Date) :
    tables.rowsOn date = .ok (((records.find? (·.date == date)).map Record.rows).getD []) := by
  rw [Tables.rowsOn, holds.rows, filter_rows holds.distinct]
  exact mapM_map_eq_ok fun row _ => StoredRow.toRow_ofRow date row

theorem Holds.recordOn (holds : tables.Holds records events) (date : Date) :
    tables.recordOn date = .ok (records.find? (·.date == date)) := by
  rw [Tables.recordOn, patternOn?, holds.schedules, lookup_schedules, holds.rowsOn]
  cases found : records.find? (·.date == date) with
  | none => rfl
  | some record =>
    have date_eq : record.date = date := by simpa using List.find?_some found
    obtain ⟨_, patternName, rows⟩ := record
    subst date_eq
    rfl

theorem Holds.eventsOn (holds : tables.Holds records events)
    (whole : ∀ event ∈ events,
      event.start.time.nanosecond = 0 ∧ event.stop.time.nanosecond = 0) (date : Date) :
    tables.eventsOn date = .ok (events.filter (·.date == date)) := by
  have keys : ((·.date == date.text) ∘ StoredEvent.ofEvent) = fun event : Event =>
      event.date == date := by
    funext event
    simp [StoredEvent.ofEvent, Bool.beq_eq_decide_eq]
  rw [Tables.eventsOn, holds.events, List.filter_map, keys]
  refine mapM_map_eq_ok fun event member => ?_
  obtain ⟨stored, here⟩ := List.mem_filter.mp member
  obtain rfl : event.date = date := by simpa using here
  exact StoredEvent.toEvent_ofEvent (whole event stored)

/-- The dates of the records whose texts lie between two texts, in the order of the texts. -/
def listedDates (records : List Record) (first last : Date) : List Date :=
  ((records.map Record.date).filter fun date =>
    textLe first.text date.text && textLe date.text last.text).mergeSort
      fun left right => textLe left.text right.text

theorem Holds.datesBetween (holds : tables.Holds records events) (first last : Date) :
    tables.datesBetween first last = .ok (listedDates records first last) := by
  have keys : ((tables.schedules.map Prod.fst).filter fun key =>
      textLe first.text key && textLe key last.text) =
      ((records.map Record.date).filter fun date =>
        textLe first.text date.text && textLe date.text last.text).map Date.text := by
    simp only [holds.schedules, List.filter_map, List.map_map]
    rfl
  rw [Tables.datesBetween, keys, ← List.map_mergeSort (f := Date.text)
    (r := fun left right => textLe left.text right.text) fun _ _ _ _ => rfl]
  refine mapM_map_eq_ok fun date _ => ?_
  rw [readDate, Date.read_text]

/-- Clearing under a key is clearing one date. -/
theorem filter_rows_ne (records : List Record) (date : Date) :
    (records.flatMap fun record => record.rows.map (StoredRow.ofRow record.date)).filter
        (·.date != date.text) =
      (records.filter (·.date != date)).flatMap fun record =>
        record.rows.map (StoredRow.ofRow record.date) := by
  induction records with
  | nil => rfl
  | cons record rest ih =>
    rw [List.flatMap_cons, List.filter_append, ih]
    by_cases same : record.date = date
    · have none : (record.rows.map (StoredRow.ofRow record.date)).filter
          (·.date != date.text) = [] := by
        refine List.filter_eq_nil_iff.mpr fun stored member => ?_
        obtain ⟨row, _, rfl⟩ := List.mem_map.mp member
        simp [StoredRow.ofRow, same]
      rw [none, List.filter_cons_of_neg (by simp [same]), List.nil_append]
    · have all : (record.rows.map (StoredRow.ofRow record.date)).filter
          (·.date != date.text) = record.rows.map (StoredRow.ofRow record.date) := by
        refine List.filter_eq_self.mpr fun stored member => ?_
        obtain ⟨row, _, rfl⟩ := List.mem_map.mp member
        simp [StoredRow.ofRow, same]
      rw [all, List.filter_cons_of_pos (by simp [same]), List.flatMap_cons]

theorem filter_schedules_ne (records : List Record) (date : Date) :
    (records.map fun record => (record.date.text, record.patternName)).filter
        (·.1 != date.text) =
      (records.filter (·.date != date)).map fun record =>
        (record.date.text, record.patternName) := by
  rw [List.filter_map]
  congr 2
  funext record
  simp [bne, Bool.beq_eq_decide_eq]

theorem Holds.clear (holds : tables.Holds records events) (date : Date) :
    (tables.clear date).2.Holds (records.filter (·.date != date)) events where
  schedules := by rw [Tables.clear, holds.schedules, filter_schedules_ne]
  rows := by rw [Tables.clear, holds.rows, filter_rows_ne]
  distinct := holds.distinct.sublist (List.filter_sublist.map Record.date)
  events := holds.events
  fresh := holds.fresh

theorem find?_filter_ne (records : List Record) (date other : Date) :
    (records.filter (·.date != date)).find? (·.date == other) =
      if other = date then none else records.find? (·.date == other) := by
  rw [List.find?_filter]
  by_cases same : other = date
  · rw [if_pos same, List.find?_eq_none]
    intro record _
    simp [same]
  · rw [if_neg same]
    congr 1
    funext record
    by_cases here : record.date = other
    · simp [here, same]
    · simp [here]

/-- Something was cleared exactly if the date had a record. -/
theorem Holds.clear_flag (holds : tables.Holds records events) (date : Date) :
    (tables.clear date).1 = (records.find? (·.date == date)).isSome := by
  rw [Tables.clear, holds.rows, holds.schedules, filter_rows_ne, filter_schedules_ne]
  by_cases present : ∃ record ∈ records, record.date = date
  · obtain ⟨record, member, here⟩ := present
    have found : (records.find? (·.date == date)).isSome = true :=
      List.find?_isSome.mpr ⟨record, member, by simpa using here⟩
    have shorter : (records.filter (·.date != date)).length ≠ records.length := by
      rw [Ne, List.length_filter_eq_length_iff]
      exact fun all => by simpa [here] using all record member
    rw [found]
    simp [shorter]
  · have missing : records.find? (·.date == date) = none :=
      List.find?_eq_none.mpr fun record member here => present ⟨record, member, by simpa using here⟩
    have same : records.filter (·.date != date) = records :=
      List.filter_eq_self.mpr fun record member => by
        simpa using fun here => present ⟨record, member, here⟩
    rw [missing, same]
    simp

theorem Holds.replace (holds : tables.Holds records events) (date : Date) (remaps : List Remap)
    (patternName : String) :
    (tables.replace date remaps patternName).Holds
      (records.filter (·.date != date) ++
        [⟨date, patternName, Remap.flatten remaps patternName⟩]) events where
  schedules := by
    rw [Tables.replace, (holds.clear date).schedules, List.map_append]
    rfl
  rows := by
    rw [Tables.replace, (holds.clear date).rows, List.flatMap_append]
    simp
  distinct := by
    rw [List.map_append, List.nodup_append]
    refine ⟨(holds.clear date).distinct, List.nodup_singleton _, ?_⟩
    intro old member new isNew same
    obtain ⟨record, kept, rfl⟩ := List.mem_map.mp member
    obtain rfl := List.mem_singleton.mp isNew
    have different := (List.mem_filter.mp kept).2
    simp [same] at different
  events := holds.events
  fresh := holds.fresh

theorem Holds.addEvent (holds : tables.Holds records events) {event : Event}
    (handle : event.handle = tables.lastHandle + 1) :
    Holds { tables with
        events := tables.events ++ [.ofEvent event], lastHandle := tables.lastHandle + 1 }
      records (events ++ [event]) where
  schedules := holds.schedules
  rows := holds.rows
  distinct := holds.distinct
  events := by rw [holds.events, List.map_append]; rfl
  fresh other member := by
    rcases List.mem_append.mp member with old | new
    · exact (holds.fresh other old).trans (Int.le_add_one le_rfl)
    · obtain rfl := List.mem_singleton.mp new
      exact handle.le

/-- Keeping some of the stored events keeps the events they are the written form of. -/
theorem Holds.filterEvents (holds : tables.Holds records events) {kept : StoredEvent → Bool}
    {keep : Event → Bool} (same : ∀ event ∈ events, kept (.ofEvent event) = keep event) :
    Holds { tables with events := tables.events.filter kept } records (events.filter keep) where
  schedules := holds.schedules
  rows := holds.rows
  distinct := holds.distinct
  events := by
    rw [holds.events, List.filter_map]
    exact congrArg _ (List.filter_congr same)
  fresh event member := holds.fresh event (List.mem_filter.mp member).1

end Tables

namespace TableStore

/-- The store can be written, and its tables hold the records and events of the view. -/
structure ShowsRecords (store : TableStore) (records : List Record) (view : View) : Prop where
  writable : store.isReadOnly = false
  holds : store.tables.Holds records view.events
  valid : view.Valid
  entries : view.entries = store.tables.entries
  recordOn : view.recordOn = fun date => records.find? (·.date == date)
  lead : view.lead = store.lead
  permitted : view.permitted = true

def Shows (store : TableStore) (view : View) : Prop := ∃ records, store.ShowsRecords records view

theorem reading_eq_ok {α : Type} {store : TableStore} {read : Tables → Except DataError α}
    {value : α} (succeeds : read store.tables = .ok value) :
    TableStore.reading read store = (.ok value, store) := by
  rw [TableStore.reading, succeeds]
  rfl

namespace ShowsRecords

variable {store : TableStore} {records : List Record} {view : View}

theorem whole (shown : store.ShowsRecords records view) : ∀ event ∈ view.events,
    event.start.time.nanosecond = 0 ∧ event.stop.time.nanosecond = 0 := fun event member =>
  Event.fullDay_whole (shown.valid.fullDays event member)

theorem eventsOn (shown : store.ShowsRecords records view) (date : Date) :
    store.tables.eventsOn date = .ok (view.eventsOn date) :=
  shown.holds.eventsOn shown.whole date

theorem next_fresh (shown : store.ShowsRecords records view) :
    store.tables.lastHandle + 1 ∉ view.handles := by
  intro member
  obtain ⟨event, stored, same⟩ := List.mem_map.mp member
  have bound := shown.holds.fresh event stored
  omega

/-- The tables may change in any way that leaves them holding what the new view shows. -/
theorem change {tables : Tables} {others : List Record} {after : View}
    (shown : store.ShowsRecords records view) (holds : tables.Holds others after.events)
    (valid : after.Valid) (entries : after.entries = tables.entries)
    (recordOn : after.recordOn = fun date => others.find? (·.date == date))
    (lead : after.lead = view.lead) (permitted : after.permitted = view.permitted) :
    ShowsRecords { store with tables } others after where
  writable := shown.writable
  holds := holds
  valid := valid
  entries := entries
  recordOn := recordOn
  lead := lead.trans shown.lead
  permitted := permitted.trans shown.permitted

theorem not_readOnly (shown : store.ShowsRecords records view) : ¬ store.isReadOnly = true := by
  rw [shown.writable]
  exact Bool.false_ne_true

theorem writing {α : Type} (shown : store.ShowsRecords records view) (write : Tables → α × Tables) :
    TableStore.writing write store =
      (.ok (write store.tables).1, { store with tables := (write store.tables).2 }) := by
  simp [TableStore.writing, shown.writable]

theorem rowsOn (shown : store.ShowsRecords records view) (date : Date) :
    store.tables.rowsOn date = .ok (view.rowsOn date) := by
  rw [shown.holds.rowsOn, View.rowsOn, shown.recordOn]

theorem recordOn_eq (shown : store.ShowsRecords records view) (date : Date) :
    store.tables.recordOn date = .ok (view.recordOn date) := by
  rw [shown.holds.recordOn, shown.recordOn]

theorem replace (shown : store.ShowsRecords records view) (date : Date) (remaps : List Remap)
    (patternName : String) :
    ShowsRecords { store with tables := store.tables.replace date remaps patternName }
      (records.filter (·.date != date) ++
        [⟨date, patternName, Remap.flatten remaps patternName⟩])
      (view.withRecord date (some ⟨date, patternName, Remap.flatten remaps patternName⟩)) := by
  refine shown.change (shown.holds.replace date remaps patternName)
    (shown.valid.of_sublist (List.Sublist.refl _)) shown.entries ?_ rfl rfl
  funext other
  rw [List.find?_append, Tables.find?_filter_ne, View.withRecord, shown.recordOn]
  by_cases same : other = date
  · simp [same]
  · have elsewhere : (date == other) = false := by simpa using Ne.symm same
    simp [same, elsewhere]

theorem clear (shown : store.ShowsRecords records view) (date : Date) :
    ShowsRecords { store with tables := (store.tables.clear date).2 }
      (records.filter (·.date != date)) (view.withRecord date none) := by
  refine shown.change (shown.holds.clear date) (shown.valid.of_sublist (List.Sublist.refl _))
    shown.entries ?_ rfl rfl
  funext other
  rw [Tables.find?_filter_ne, View.withRecord, shown.recordOn]

/-- Keeping some of the events, judged in the tables as in the view. -/
theorem filterEvents (shown : store.ShowsRecords records view) {kept : StoredEvent → Bool}
    {keep : Event → Bool} (same : ∀ event ∈ view.events, kept (.ofEvent event) = keep event) :
    ShowsRecords
      { store with tables := { store.tables with events := store.tables.events.filter kept } }
      records { view with events := view.events.filter keep } :=
  shown.change (shown.holds.filterEvents same) (shown.valid.of_sublist List.filter_sublist)
    shown.entries shown.recordOn rfl rfl

theorem addEvent (shown : store.ShowsRecords records view) (date : Date) (title : String) :
    Gives Shows (store.addEvent date title)
      (view.addEvent (store.tables.lastHandle + 1) date title) := by
  have valid := shown.valid.addEvent shown.next_fresh date title
  simp only [TableStore.addEvent, Tables.addEvent, View.addEvent] at valid ⊢
  cases made : Event.fullDay (store.tables.lastHandle + 1) date title with
  | error error => exact ⟨rfl, records, shown⟩
  | ok event =>
    simp only [made] at valid
    dsimp only
    rw [if_neg shown.not_readOnly]
    refine ⟨rfl, records, shown.change ?_ valid shown.entries shown.recordOn rfl rfl⟩
    exact shown.holds.addEvent (Event.fullDay_fields made).1

/-- The handles of the markers of a date pick out these markers and no other event. -/
theorem markers_contain (shown : store.ShowsRecords records view) (date : Date) {event : Event}
    (member : event ∈ view.events) :
    (((view.eventsOn date).filter fun event => Marker.isTitle store.lead event.title).map
      Event.handle).contains event.handle = view.isMarkerOn date event := by
  rw [Bool.eq_iff_iff, List.contains_iff_mem, List.mem_map, View.isMarkerOn, ← shown.lead]
  constructor
  · rintro ⟨marker, isMarker, same⟩
    obtain ⟨here, titled⟩ := List.mem_filter.mp isMarker
    obtain ⟨stored, onDate⟩ := List.mem_filter.mp here
    obtain rfl := List.inj_on_of_nodup_map shown.valid.distinct stored member same
    simpa using ⟨by simpa using onDate, titled⟩
  · intro isMarker
    obtain ⟨onDate, titled⟩ := Bool.and_eq_true_iff.mp isMarker
    exact ⟨event, List.mem_filter.mpr ⟨List.mem_filter.mpr ⟨member, onDate⟩, titled⟩, rfl⟩

theorem withoutMarkers (shown : store.ShowsRecords records view) (date : Date)
    {markers : List Int}
    (all : markers = ((view.eventsOn date).filter fun event =>
      Marker.isTitle store.lead event.title).map Event.handle) :
    ShowsRecords
      { store with tables := { store.tables with
          events := store.tables.events.filter (!markers.contains ·.handle) } }
      records (view.withoutMarkers date) := by
  refine shown.filterEvents fun event member => ?_
  rw [all, ← shown.markers_contain date member]
  rfl

theorem createMarker (shown : store.ShowsRecords records view) (date : Date)
    (patternName : String) :
    Gives Shows (store.createMarker date patternName)
      (view.createMarker (store.tables.lastHandle + 1) date patternName) := by
  have added := (shown.withoutMarkers date rfl).addEvent date (Marker.title store.lead patternName)
  rw [View.createMarker, if_pos shown.permitted, shown.lead, TableStore.createMarker,
    shown.eventsOn]
  dsimp only at added ⊢
  rw [if_neg (by simp [shown.writable])]
  generalize TableStore.addEvent _ _ _ = ran at added ⊢
  obtain ⟨result, after⟩ := ran
  cases made : Event.fullDay (store.tables.lastHandle + 1) date
      (Marker.title store.lead patternName) with
  | error error =>
    obtain rfl : result = .error error := by simpa [View.addEvent, made] using added.1
    exact ⟨rfl, records, shown⟩
  | ok event =>
    obtain rfl : result = .ok (store.tables.lastHandle + 1) := by
      simpa [View.addEvent, made] using added.1
    exact added

theorem deleteMarker (shown : store.ShowsRecords records view) (handle : Int) :
    Gives Shows (store.deleteMarker handle) (view.deleteMarker handle) := by
  have missing : (store.tables.events.filter (·.handle != handle)).length =
      store.tables.events.length ↔ handle ∉ view.handles := by
    rw [List.length_filter_eq_length_iff, shown.holds.events]
    simp [View.handles, StoredEvent.ofEvent]
  rw [View.deleteMarker, if_pos shown.permitted]
  rw [TableStore.deleteMarker, if_neg shown.not_readOnly]
  by_cases present : handle ∈ view.handles
  · rw [if_neg fun same => missing.mp same present, if_pos present]
    exact ⟨rfl, records, shown.filterEvents fun event _ => rfl⟩
  · rw [if_pos (missing.mpr present), if_neg present]
    exact ⟨rfl, records, shown⟩

theorem replaceEntries (shown : store.ShowsRecords records view) (entries : List Entry) :
    Gives Shows (TableStore.replaceEntries entries store) (view.replaceEntries entries) := by
  simp only [TableStore.replaceEntries, View.replaceEntries]
  cases Entry.check entries with
  | error error => exact ⟨rfl, records, shown⟩
  | ok accepted =>
    simp only [shown.writing]
    refine ⟨rfl, records, shown.change ?_ ?_ rfl shown.recordOn rfl rfl⟩
    · exact ⟨shown.holds.schedules, shown.holds.rows, shown.holds.distinct, shown.holds.fresh,
        shown.holds.events⟩
    · exact shown.valid.of_sublist (List.Sublist.refl _)

end ShowsRecords

instance : Backend.Lawful TableStore where
  Shows := Shows
  valid := fun ⟨_, shown⟩ => shown.valid
  fetch _ := fun ⟨records, shown⟩ => ⟨by rw [View.classesOn, shown.entries]; rfl, records, shown⟩
  entries := fun ⟨records, shown⟩ => ⟨by rw [shown.entries]; rfl, records, shown⟩
  replaceEntries entries := fun ⟨_, shown⟩ => shown.replaceEntries entries
  replace date remaps patternName := fun ⟨_, shown⟩ => by
    rw [show Backend.replace date remaps patternName = TableStore.writing _ from rfl,
      shown.writing]
    exact ⟨rfl, _, shown.replace date remaps patternName⟩
  rows date := fun ⟨records, shown⟩ => by
    rw [show Backend.rows date = TableStore.reading _ from rfl, reading_eq_ok (shown.rowsOn date)]
    exact ⟨rfl, records, shown⟩
  clear date := fun ⟨_, shown⟩ => by
    rw [show Backend.clear date = TableStore.writing _ from rfl, shown.writing,
      shown.holds.clear_flag, shown.recordOn]
    exact ⟨rfl, _, shown.clear date⟩
  record date := fun ⟨records, shown⟩ => by
    rw [show Backend.record date = TableStore.reading _ from rfl, reading_eq_ok (shown.recordOn_eq date)]
    exact ⟨rfl, records, shown⟩
  specialDates first last := fun ⟨records, shown⟩ => by
    rw [show Backend.specialDates first last = TableStore.reading _ from rfl,
      reading_eq_ok (shown.holds.datesBetween first last)]
    exact ⟨_, rfl, records, shown⟩
  findMarker date := fun ⟨records, shown⟩ => by
    refine ⟨?_, records, shown⟩
    show TableStore.findMarker date _ = _
    rw [TableStore.findMarker, shown.eventsOn, View.findMarker, if_pos shown.permitted, shown.lead]
  createMarker date patternName := fun ⟨_, shown⟩ =>
    ⟨_, shown.next_fresh, shown.createMarker date patternName⟩
  deleteMarker handle := fun ⟨_, shown⟩ => shown.deleteMarker handle

instance : EventBook.Lawful TableStore where
  addEvent date title := fun ⟨_, shown⟩ => ⟨_, shown.next_fresh, shown.addEvent date title⟩
  eventsOn date := fun ⟨records, shown⟩ => by
    rw [show EventBook.eventsOn date = TableStore.reading _ from rfl,
      reading_eq_ok (shown.eventsOn date)]
    exact ⟨rfl, records, shown⟩

end TableStore
end SchoolWeek
