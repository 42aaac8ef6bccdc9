import Mathlib
import SchoolWeek.Proofs.DateOrder
import SchoolWeek.Proofs.Reachable

/-! The text of a date is its key in the tables. It is read back as the date, so what is filed
under one date is filed under no other, whatever the tables hold, and nothing that is done on
other dates touches it. On years of four digits the keys compare as the dates do. -/
namespace SchoolWeek

namespace Date

variable {left right : Date}

/-- How two dates compare: by their years, then by their months, then by their days. -/
def order (left right : Date) : Ordering :=
  (compare left.year right.year).then
    ((compare left.month right.month).then (compare left.day right.day))

theorem order_eq_lt_iff : left.order right = .lt ↔ left.Before right := by
  simp only [order, Ordering.then_eq_lt, compare_lt_iff_lt, compare_eq_iff_eq, Before]

theorem order_eq_gt_iff : left.order right = .gt ↔ right.Before left := by
  simp only [order, Ordering.then_eq_gt, compare_gt_iff_gt, compare_eq_iff_eq, Before]
  omega

theorem order_self (date : Date) : date.order date = .eq := by
  simp [order]

/-- The keys of dates with plain years compare as the dates do. -/
theorem compare_text (leftPlain : left.HasPlainYear) (rightPlain : right.HasPlainYear) :
    compare left.text right.text = left.order right := by
  rcases before_or_eq_or_after left right with before | rfl | after
  · rw [order_eq_lt_iff.mpr before, compare_lt_iff_lt]
    exact (text_lt_iff leftPlain rightPlain).mpr before
  · rw [order_self, compare_eq_iff_eq]
  · rw [order_eq_gt_iff.mpr after, compare_gt_iff_gt]
    exact (text_lt_iff rightPlain leftPlain).mpr after

end Date

/-- What is filed in tables under one key. -/
structure Filed where
  schedules : List (String × String)
  rows : List StoredRow
  events : List StoredEvent

/-- No record, row or event is in both. -/
structure Filed.Apart (left right : Filed) : Prop where
  schedules : left.schedules.Disjoint right.schedules
  rows : left.rows.Disjoint right.rows
  events : left.events.Disjoint right.events

/-- Reading a list keeps what reading one item of it keeps. -/
theorem map_eq_of_mapM_eq_ok {α β γ ε : Type} {read : α → Except ε β} {before : α → γ}
    {after : β → γ} (keeps : ∀ item value, read item = .ok value → after value = before item)
    {items : List α} {values : List β} (ran : items.mapM read = .ok values) :
    values.map after = items.map before := by
  induction items generalizing values with
  | nil =>
    cases ran
    rfl
  | cons item items ih =>
    rw [List.mapM_cons] at ran
    cases first : read item with
    | error error =>
      rw [first] at ran
      cases ran
    | ok value =>
      rw [first] at ran
      cases rest : items.mapM read with
      | error error =>
        rw [rest] at ran
        cases ran
      | ok others =>
        rw [rest] at ran
        cases ran
        rw [List.map_cons, List.map_cons, keeps item value first, ih rest]

theorem StoredEvent.handle_of_toEvent {date : Date} {stored : StoredEvent} {event : Event}
    (read : stored.toEvent date = .ok event) : event.handle = stored.handle := by
  unfold toEvent at read
  cases start : timestamp stored.start with
  | error error =>
    rw [start] at read
    cases read
  | ok first =>
    cases stop : timestamp stored.stop with
    | error error =>
      rw [start, stop] at read
      cases read
    | ok last =>
      rw [start, stop] at read
      cases read
      rfl

namespace Tables

def filed (tables : Tables) (date : Date) : Filed where
  schedules := tables.schedules.filter (·.1 == date.text)
  rows := tables.rows.filter (·.date == date.text)
  events := tables.events.filter (·.date == date.text)

variable {tables before after : Tables} {date other : Date}

theorem filter_key_disjoint {α : Type} (key : α → String) (items : List α) (apart : date ≠ other) :
    (items.filter (key · == date.text)).Disjoint (items.filter (key · == other.text)) := by
  intro item here there
  have isDate := beq_iff_eq.mp (List.mem_filter.mp here).2
  have isOther := beq_iff_eq.mp (List.mem_filter.mp there).2
  exact apart (Date.text_injective (isDate.symm.trans isOther))

theorem filed_apart (tables : Tables) (apart : date ≠ other) :
    (tables.filed date).Apart (tables.filed other) where
  schedules := filter_key_disjoint Prod.fst _ apart
  rows := filter_key_disjoint StoredRow.date _ apart
  events := filter_key_disjoint StoredEvent.date _ apart

theorem lookup_filter_key (schedules : List (String × String)) (key : String) :
    (schedules.filter (·.1 == key)).lookup key = schedules.lookup key := by
  induction schedules with
  | nil => rfl
  | cons schedule rest ih =>
    obtain ⟨stored, patternName⟩ := schedule
    by_cases same : stored = key
    · simp [same]
    · rw [List.filter_cons_of_neg (by simpa using same), ih, List.lookup_cons,
        beq_eq_false_iff_ne.mpr (Ne.symm same)]

/-- Nothing that is filed under the date, and nothing that can be read of it, has changed. -/
structure SameOn (date : Date) (before after : Tables) : Prop where
  filed : after.filed date = before.filed date
  rowsOn : after.rowsOn date = before.rowsOn date
  recordOn : after.recordOn date = before.recordOn date
  eventsOn : after.eventsOn date = before.eventsOn date

/-- What is read of a date is read from what is filed under it. -/
theorem sameOn_of_filed (filed : after.filed date = before.filed date) :
    SameOn date before after := by
  have rows : after.rowsOn date = before.rowsOn date :=
    congrArg (fun filed : Filed => filed.rows.mapM StoredRow.toRow) filed
  have pattern : after.patternOn? date = before.patternOn? date := by
    have looked := congrArg (fun filed : Filed => filed.schedules.lookup date.text) filed
    dsimp only [Tables.filed] at looked
    rwa [lookup_filter_key, lookup_filter_key] at looked
  exact {
    filed
    rowsOn := rows
    recordOn := by rw [recordOn, recordOn, pattern, rows]
    eventsOn := congrArg (fun filed : Filed => filed.events.mapM (StoredEvent.toEvent date)) filed }

/-- Each event has a handle of its own, and the next handle to be given out is new. -/
structure CountsEvents (tables : Tables) : Prop where
  distinct : (tables.events.map StoredEvent.handle).Nodup
  fresh : ∀ event ∈ tables.events, event.handle ≤ tables.lastHandle

/-- The tables count their events and have just this under the date. -/
structure Files (tables : Tables) (date : Date) (filed : Filed) : Prop where
  counts : tables.CountsEvents
  filed_eq : tables.filed date = filed

/-- Other keys are not the key of the date. -/
theorem filter_filter_key_ne {α : Type} (key : α → String) (items : List α) (apart : other ≠ date) :
    (items.filter (key · != other.text)).filter (key · == date.text) =
      items.filter (key · == date.text) := by
  rw [List.filter_filter]
  refine List.filter_congr fun item _ => ?_
  by_cases here : key item = date.text
  · simp [here, apart.symm]
  · simp [here]

theorem filter_map_key_ne {α β : Type} (key : α → String) (make : β → α) (items : List β)
    (apart : other ≠ date) (keyed : ∀ item, key (make item) = other.text) :
    (items.map make).filter (key · == date.text) = [] := by
  refine List.filter_eq_nil_iff.mpr fun item member => ?_
  obtain ⟨_, _, rfl⟩ := List.mem_map.mp member
  simp [keyed, apart]

namespace Files

variable {filed : Filed}

theorem clear (files : tables.Files date filed) (apart : other ≠ date) :
    (tables.clear other).2.Files date filed where
  counts := ⟨files.counts.distinct, files.counts.fresh⟩
  filed_eq := by
    rw [← files.filed_eq, Tables.filed, Tables.filed, Tables.clear]
    dsimp only
    rw [filter_filter_key_ne Prod.fst _ apart, filter_filter_key_ne StoredRow.date _ apart]

theorem replace (files : tables.Files date filed) (apart : other ≠ date) (remaps : List Remap)
    (patternName : String) : (tables.replace other remaps patternName).Files date filed where
  counts := ⟨files.counts.distinct, files.counts.fresh⟩
  filed_eq := by
    have cleared := (files.clear apart).filed_eq
    have rows : ((Remap.flatten remaps patternName).map (StoredRow.ofRow other)).filter
        (·.date == date.text) = [] :=
      filter_map_key_ne StoredRow.date _ _ apart fun _ => rfl
    have schedule : [(other.text, patternName)].filter (·.1 == date.text) = [] := by simp [apart]
    rw [← cleared, Tables.filed, Tables.filed, Tables.replace]
    dsimp only
    rw [List.filter_append, List.filter_append, rows, schedule, List.append_nil, List.append_nil]

/-- Events may go if they are not filed under the date. -/
theorem filterEvents (files : tables.Files date filed) {kept : StoredEvent → Bool}
    (spares : ∀ event ∈ tables.events, event.date = date.text → kept event = true) :
    Files { tables with events := tables.events.filter kept } date filed where
  counts := ⟨files.counts.distinct.sublist (List.filter_sublist.map _),
    fun event member => files.counts.fresh event (List.mem_filter.mp member).1⟩
  filed_eq := by
    have events : (tables.events.filter kept).filter (·.date == date.text) =
        tables.events.filter (·.date == date.text) := by
      rw [List.filter_filter]
      refine List.filter_congr fun event member => ?_
      by_cases here : event.date = date.text
      · simp [here, spares event member here]
      · simp [here]
    rw [← files.filed_eq, Tables.filed, Tables.filed]
    dsimp only
    rw [events]

theorem addEvent (files : tables.Files date filed) (apart : other ≠ date) (title : String) :
    (tables.addEvent other title).2.Files date filed := by
  unfold Tables.addEvent
  dsimp only
  split
  · exact files
  · rename_i event made
    obtain ⟨numbered, dated, -⟩ := Event.fullDay_fields made
    have elsewhere : [StoredEvent.ofEvent event].filter (·.date == date.text) = [] := by
      simp [StoredEvent.ofEvent, dated, apart]
    refine ⟨⟨?_, fun stored member => ?_⟩, ?_⟩
    · rw [List.map_append, List.nodup_append]
      refine ⟨files.counts.distinct, List.nodup_singleton _, ?_⟩
      intro old isOld new isNew same
      obtain ⟨stored, member, rfl⟩ := List.mem_map.mp isOld
      obtain rfl := List.mem_singleton.mp isNew
      have bound := files.counts.fresh stored member
      have next : (StoredEvent.ofEvent event).handle = tables.lastHandle + 1 := numbered
      omega
    · rcases List.mem_append.mp member with old | new
      · exact (files.counts.fresh stored old).trans (Int.le_add_one le_rfl)
      · obtain rfl := List.mem_singleton.mp new
        exact numbered.le
    · rw [← files.filed_eq, Tables.filed, Tables.filed]
      dsimp only
      rw [List.filter_append, elsewhere, List.append_nil]

end Files

/-- The events that are read of a date are stored under its key. -/
theorem exists_stored_of_mem_eventsOn {events : List Event} {event : Event}
    (read : tables.eventsOn date = .ok events) (member : event ∈ events) :
    ∃ stored ∈ tables.events, stored.date = date.text ∧ stored.handle = event.handle := by
  have numbered : event.handle ∈ events.map Event.handle := List.mem_map_of_mem member
  rw [map_eq_of_mapM_eq_ok (fun _ _ => StoredEvent.handle_of_toEvent) read] at numbered
  obtain ⟨stored, filed, handle⟩ := List.mem_map.mp numbered
  obtain ⟨there, dated⟩ := List.mem_filter.mp filed
  exact ⟨stored, there, beq_iff_eq.mp dated, handle⟩

/-- A handle is that of an event of one date only. -/
theorem CountsEvents.handle_ne (counts : tables.CountsEvents) (apart : other ≠ date)
    {events : List Event} {event : Event} (read : tables.eventsOn other = .ok events)
    (member : event ∈ events) :
    ∀ stored ∈ tables.events, stored.date = date.text → stored.handle ≠ event.handle := by
  intro stored there dated same
  obtain ⟨found, isThere, foundDated, handle⟩ := exists_stored_of_mem_eventsOn read member
  have one : found = stored :=
    List.inj_on_of_nodup_map counts.distinct isThere there (handle.trans same.symm)
  exact apart (Date.text_injective (foundDated.symm.trans (one ▸ dated)))

end Tables

namespace TableStore

/-- The tables of the store file just this under the date. -/
def Files (date : Date) (filed : Filed) (store : TableStore) : Prop :=
  store.tables.Files date filed

/-- A marker that is found stands for an event of the date. -/
theorem exists_event_of_findMarker {store : TableStore} {date : Date} {marker : Marker}
    (found : store.findMarker date = .ok (some marker)) :
    ∃ events event, store.tables.eventsOn date = .ok events ∧ event ∈ events ∧
      event.handle = marker.handle := by
  unfold TableStore.findMarker at found
  split at found
  · cases found
  · rename_i events read
    obtain ⟨event, isFound, rfl⟩ := Option.map_eq_some_iff.mp (Except.ok.inj found)
    exact ⟨events, event, read, List.mem_of_find?_eq_some isFound, rfl⟩

namespace Files

variable {store : TableStore} {date other : Date} {filed : Filed}

theorem writing {α : Type} {write : Tables → α × Tables} (files : store.Files date filed)
    (written : (write store.tables).2.Files date filed) :
    (TableStore.writing write store).2.Files date filed := by
  unfold TableStore.writing
  split_ifs
  · exact files
  · exact written

theorem replaceEntries (files : store.Files date filed) (entries : List Entry) :
    (TableStore.replaceEntries entries store).2.Files date filed := by
  unfold TableStore.replaceEntries
  cases Entry.check entries with
  | error error => exact files
  | ok _ => exact files.writing ⟨⟨files.counts.distinct, files.counts.fresh⟩, files.filed_eq⟩

theorem addEvent (files : store.Files date filed) (apart : other ≠ date) (title : String) :
    (store.addEvent other title).2.Files date filed := by
  have added := Tables.Files.addEvent files apart title
  unfold TableStore.addEvent
  split
  · exact files
  · rename_i made
    rw [made] at added
    split_ifs
    · exact files
    · exact added

/-- The markers that make way for a new one are all filed under its own date. -/
theorem createMarker (files : store.Files date filed) (apart : other ≠ date)
    (patternName : String) : (store.createMarker other patternName).2.Files date filed := by
  unfold TableStore.createMarker
  split
  · exact files
  · rename_i events read
    dsimp only
    split_ifs
    · exact files
    · have spares : ∀ stored ∈ store.tables.events, stored.date = date.text →
          (!((events.filter fun event => Marker.isTitle store.lead event.title).map
            Event.handle).contains stored.handle) = true := by
        intro stored there dated
        rw [Bool.not_eq_true', List.contains_eq_mem, decide_eq_false_iff_not, List.mem_map]
        rintro ⟨event, marker, same⟩
        have member : event ∈ events := (List.mem_filter.mp marker).1
        exact files.counts.handle_ne apart read member stored there dated same.symm
      have kept : Files date filed { store with tables := { store.tables with
          events := store.tables.events.filter _ } } := Tables.Files.filterEvents files spares
      have added := kept.addEvent apart (Marker.title store.lead patternName)
      split
      · exact files
      · rename_i created
        rwa [created] at added

theorem deleteMarker (files : store.Files date filed) {handle : Int}
    (elsewhere : ∀ stored ∈ store.tables.events, stored.date = date.text → stored.handle ≠ handle) :
    (store.deleteMarker handle).2.Files date filed := by
  unfold TableStore.deleteMarker
  dsimp only
  split_ifs
  · exact files
  · exact files
  · exact Tables.Files.filterEvents files fun stored member dated =>
      bne_iff_ne.mpr (elsewhere stored member dated)

end Files

end TableStore

/-- Every date but this one, and what belongs to no date, but for handles. -/
def Scope.around (date : Date) : Scope where
  timetable := True
  date := (· ≠ date)
  range _ _ := True
  handle _ := False

namespace Traced

variable {date other : Date} {filed : Filed} {state after : Traced TableStore}

/-- A fault may hide a marker, but it does not make one up. -/
theorem findMarker_below {marker : Marker}
    (found : Backend.findMarker other state = (.ok (some marker), after)) :
    state.base.findMarker other = .ok (some marker) ∧ after.base = state.base := by
  change noted .findMarker (Fault.calendarResult none) (Backend.findMarker other) state = _ at found
  unfold noted enter at found
  split at found
  · rename_i fault struck ran
    have pretended : fault.calendarResult none ≠ .ok (some marker) := by
      unfold Fault.calendarResult
      cases fault.mishap <;> nofun
    exact (pretended (congrArg Prod.fst found)).elim
  · rename_i struck ran
    split at ran <;> cases ran
    exact ⟨congrArg Prod.fst found, (congrArg (fun ran => ran.2.base) found).symm⟩

/-- No operation on another date touches what is filed under this one, whatever faults strike. -/
theorem files_alike (date : Date) (filed : Filed) : Backend.Alike (Scope.around date) id
    (Alone fun state : Traced TableStore => state.base.Files date filed) where
  fetch day := by
    rintro ⟨rfl, before⟩
    exact Alone.ran rfl (Backend.Keeps.noted _ _ before before)
  entries {_ _} := by
    rintro ⟨rfl, before⟩
    exact Alone.ran rfl (Backend.Keeps.noted _ _ before before)
  replaceEntries entries _ := by
    rintro ⟨rfl, before⟩
    exact Alone.ran rfl (Backend.Keeps.noted _ _ before (before.replaceEntries entries))
  replace {_ _ other} remaps patternName apart := by
    rintro ⟨rfl, before⟩
    exact Alone.ran rfl (Backend.Keeps.noted _ _ before
      (before.writing (Tables.Files.replace before apart remaps patternName)))
  rows {_ _ other} _ := by
    rintro ⟨rfl, before⟩
    exact Alone.ran rfl (Backend.Keeps.noted _ _ before before)
  clear {_ _ other} apart := by
    rintro ⟨rfl, before⟩
    exact Alone.ran rfl (Backend.Keeps.noted _ _ before
      (before.writing (Tables.Files.clear before apart)))
  record {_ _ other} _ := by
    rintro ⟨rfl, before⟩
    exact Alone.ran rfl (Backend.Keeps.noted _ _ before before)
  specialDates _ := by
    rintro ⟨rfl, before⟩
    exact Alone.ran rfl (Backend.Keeps.noted _ _ before before)
  findMarker {_ _ other} _ := by
    rintro ⟨rfl, before⟩
    exact Alone.ran (Marker.map_renumbered_id _) (Backend.Keeps.noted _ _ before before)
  createMarker {_ _ other} patternName apart := by
    rintro ⟨rfl, before⟩
    exact Alone.ran (congrFun Except.map_id _)
      (Backend.Keeps.noted _ _ before (before.createMarker apart patternName))
  deleteMarker named := named.elim
  deleteFound {state _ after other marker} apart := by
    rintro ⟨rfl, before⟩ found
    obtain ⟨below, same⟩ := findMarker_below found
    obtain ⟨events, event, read, member, handle⟩ := TableStore.exists_event_of_findMarker below
    have elsewhere := before.counts.handle_ne apart read member
    rw [found]
    rw [← same] at before elsewhere
    rw [handle] at elsewhere
    exact Alone.ran rfl (Backend.Keeps.noted _ _ before (before.deleteMarker elsewhere))

theorem files_books (date : Date) (filed : Filed) : EventBook.Alike (Scope.around date) id
    (Alone fun state : Traced TableStore => state.base.Files date filed) where
  addEvent {_ _ other} title apart := by
    rintro ⟨rfl, before⟩
    exact Alone.ran (congrFun Except.map_id _) (before.addEvent apart title)
  eventsOn {_ _ other} _ := by
    rintro ⟨rfl, before⟩
    exact Alone.ran (Event.map_renumbered_id _) before

/-- A step that does not name the date leaves what is filed under it, if it does not delete an
event by its handle. -/
theorem files_run {step : Step} (files : state.base.Files date filed)
    (elsewhere : date ∉ step.dates) (noHandle : ∀ handle, step ≠ .deleteMarker handle) :
    (step.run state).2.base.Files date filed := by
  have kept (noCalls : step ≠ .takeCalls) (noFault : ∀ fault, step ≠ .setFault fault) :
      (step.run state).2.base.Files date filed := by
    have within : step.Within (Scope.around date) :=
      step.within_of_dates (fun _ named => ne_of_mem_of_not_mem named elsewhere) (fun _ => trivial)
        (fun _ _ _ => trivial) (fun handle deletes => noHandle handle deletes) noCalls noFault
    exact (step.run_alike (files_alike date filed) (files_books date filed) within
      ⟨rfl, files⟩).2.2
  cases step with
  | takeCalls => exact files
  | setFault fault => exact files
  | _ => exact kept nofun fun fault => nofun

/-- Takes steps one after the other. -/
def runAll (steps : List Step) (state : Traced TableStore) : Traced TableStore :=
  steps.foldl (fun state step => (step.run state).2) state

theorem files_runAll {steps : List Step} (files : state.base.Files date filed)
    (elsewhere : ∀ step ∈ steps, date ∉ step.dates ∧ ∀ handle, step ≠ .deleteMarker handle) :
    (state.runAll steps).base.Files date filed := by
  induction steps generalizing state with
  | nil => exact files
  | cons step steps ih =>
    obtain ⟨here, rest⟩ := List.forall_mem_cons.mp elsewhere
    exact ih (files_run files here.1 here.2) rest

end Traced

/-- The text of a date is read back as the date, so it is the text of no other. In tables of
whatever content no record, row or event is filed under two dates, and steps that name other
dates leave the date as it is. On years of four digits the texts compare as the dates do. -/
theorem Date.text_is_faithful_key :
    (∀ date : Date, Tables.readDate date.text = .ok date) ∧ Function.Injective Date.text ∧
      (∀ (tables : Tables) (date other : Date), date ≠ other →
        (tables.filed date).Apart (tables.filed other)) ∧
      (∀ (state : Traced TableStore) (date : Date) (steps : List Step),
        state.base.tables.CountsEvents →
        (∀ step ∈ steps, date ∉ step.dates ∧ ∀ handle, step ≠ .deleteMarker handle) →
        Tables.SameOn date state.base.tables (state.runAll steps).base.tables) ∧
      ∀ left right : Date, left.HasPlainYear → right.HasPlainYear →
        compare left.text right.text = left.order right := by
  refine ⟨fun date => ?_, text_injective, fun tables _ _ => tables.filed_apart,
    fun state date steps counts elsewhere => ?_, fun _ _ => compare_text⟩
  · rw [Tables.readDate, read_text]
  · have files : state.base.Files date (state.base.tables.filed date) := ⟨counts, rfl⟩
    exact Tables.sameOn_of_filed (Traced.files_runAll files elsewhere).filed_eq

def ancient : Date := ⟨-999, 1, 6, by decide⟩

def medieval : Date := ⟨999, 1, 6, by decide⟩

/-- A record, a row and an event of either date, whose texts differ in the sign only. The row and
the event of the later date cannot be read. -/
def mirrored : Traced TableStore := .ofBackend
  { tables := { Tables.empty with
      schedules := [("-0999-01-06", "短縮A時程"), ("0999-01-06", "x")]
      rows := [⟨"-0999-01-06", 0, 0, 1, 2, "短縮A時程"⟩, ⟨"0999-01-06", 7, 0, 1, 2, "x"⟩]
      events := [⟨1, "-0999-01-06", "短縮", "-0999-01-06T00:00:00", "-0999-01-07T00:00:00", true⟩,
        ⟨2, "0999-01-06", "短縮", "bad", "bad", true⟩]
      lastHandle := 2 }
    lead := Marker.defaultLead }

theorem Date.text_is_faithful_key_mirrored :
    ancient ≠ medieval ∧ mirrored.base.tables.CountsEvents ∧
      Tables.readDate ancient.text = .ok ancient ∧
      (mirrored.base.tables.filed ancient).Apart (mirrored.base.tables.filed medieval) ∧
      Tables.SameOn medieval mirrored.base.tables
        (mirrored.runAll [.remove ancient, .apply ancient "試験" none, .clear ancient]).base.tables ∧
      compare medieval.text Session.monday.text = .lt := by
  obtain ⟨readable, -, apart, spared, compared⟩ := Date.text_is_faithful_key
  have different : ancient ≠ medieval := by decide
  have counts : mirrored.base.tables.CountsEvents := ⟨by decide, by decide⟩
  refine ⟨different, counts, readable ancient, apart _ _ _ different,
    spared mirrored medieval _ counts ?_, (compared _ _ (by decide) (by decide)).trans (by decide)⟩
  simp [Step.dates, different.symm]

end SchoolWeek
