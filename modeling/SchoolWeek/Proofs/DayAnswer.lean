import Mathlib
import SchoolWeek.Proofs.CheckedTimetable
import SchoolWeek.Proofs.Refusals
import SchoolWeek.Proofs.Rereading
import SchoolWeek.Proofs.SpecialDates

/-! What the answer for a day says about the record of the day. The classes are those of the
week or all of them are copied, and whether they are is read off the classes and not off the
record. Yet it says the same: a day is special if its record copies from a cell that has a
class. The name in the answer and the list of special dates go by whether there is a record. -/
namespace SchoolWeek

/-- There is a class in this period of the day. -/
def Timetable.Teaches (timetable : Timetable) (day : Weekday) (period : Period) : Prop :=
  ∃ entry ∈ timetable.stored, entry.day = day ∧ entry.period = period.number

/-- A class of the week is copied into the day that the record is of. -/
def Record.Copies (timetable : Timetable) (record : Record) : Prop :=
  ∃ row ∈ record.rows, timetable.Teaches row.source row.sourcePeriod

namespace Remap

variable {holds : Weekday → Period → Prop}

theorem exists_mem_flatten {remaps : List Remap} {patternName : String} :
    (∃ row ∈ flatten remaps patternName, holds row.source row.sourcePeriod) ↔
      ∃ remap ∈ remaps, ∃ pair ∈ remap.pairs, holds remap.source pair.1 := by
  constructor
  · rintro ⟨row, member, held⟩
    obtain ⟨remap, listed, written⟩ := List.mem_flatMap.mp member
    obtain ⟨pair, paired, rfl⟩ := List.mem_map.mp written
    exact ⟨remap, listed, pair, paired, held⟩
  · rintro ⟨remap, listed, pair, paired, held⟩
    exact ⟨_, List.mem_flatMap.mpr ⟨remap, listed, List.mem_map_of_mem paired⟩, held⟩

/-- No row is lost or made up when rows are gathered into remaps. -/
theorem exists_mem_regroup {rows : List Row} :
    (∃ remap ∈ regroup rows, ∃ pair ∈ remap.pairs, holds remap.source pair.1) ↔
      ∃ row ∈ rows, holds row.source row.sourcePeriod := by
  rw [regroup_eq]
  constructor
  · rintro ⟨remap, listed, pair, paired, held⟩
    obtain ⟨days, -, rfl⟩ := List.mem_map.mp listed
    obtain ⟨row, kept, rfl⟩ := List.mem_map.mp paired
    obtain ⟨member, same⟩ := List.mem_filter.mp kept
    obtain rfl : row.days = days := by simpa using same
    exact ⟨row, member, held⟩
  · rintro ⟨row, member, held⟩
    have kept : row ∈ rows.filter (·.days == row.days) :=
      List.mem_filter.mpr ⟨member, beq_self_eq_true _⟩
    exact ⟨ofDays rows row.days, List.mem_map_of_mem (mem_dayPairs member), row.periods,
      List.mem_map_of_mem kept, held⟩

end Remap

namespace View

theorem exists_mem_copies {view : View} {remap : Remap} :
    (∃ slot, slot ∈ Engine.copies remap (view.classesOn remap.source)) ↔
      ∃ pair ∈ remap.pairs, Timetable.Teaches ⟨view.entries⟩ remap.source pair.1 := by
  have found_iff (period : Period) :
      ((view.classesOn remap.source).find? (·.period == period.number)).isSome ↔
        Timetable.Teaches ⟨view.entries⟩ remap.source period := by
    simp [classesOn, Entry.sortByPeriod, Timetable.Teaches, and_assoc]
  constructor
  · rintro ⟨slot, member⟩
    obtain ⟨pair, paired, copied⟩ := List.mem_filterMap.mp member
    obtain ⟨entry, found, -⟩ := Option.map_eq_some_iff.mp copied
    exact ⟨pair, paired, (found_iff pair.1).mp (Option.isSome_iff_exists.mpr ⟨entry, found⟩)⟩
  · rintro ⟨pair, paired, taught⟩
    obtain ⟨entry, found⟩ := Option.isSome_iff_exists.mp ((found_iff pair.1).mpr taught)
    refine ⟨Slot.copied remap pair.1 pair.2 entry, List.mem_filterMap.mpr ⟨pair, paired, ?_⟩⟩
    rw [found]
    rfl

theorem isSpecial_of_mem_merge {view : View} {remaps : List Remap} {slot : Slot}
    (member : slot ∈ view.merge remaps) : slot.isSpecial = true := by
  obtain ⟨remap, -, copies⟩ := List.mem_flatMap.mp member
  obtain ⟨pair, -, copied⟩ := List.mem_filterMap.mp copies
  obtain ⟨entry, -, rfl⟩ := Option.map_eq_some_iff.mp copied
  rfl

/-- Under remaps every class is copied, and without remaps none is. -/
theorem isSpecial_eq_any (view : View) (date : Date) (remaps : List Remap) :
    ∀ slot ∈ view.scheduleUnder date remaps,
      slot.isSpecial = (view.scheduleUnder date remaps).any (·.isSpecial) := by
  cases remaps with
  | nil =>
    have normal : ∀ slot ∈ view.normalSchedule date, slot.isSpecial = false := by
      intro slot member
      obtain ⟨entry, -, rfl⟩ := List.mem_map.mp member
      rfl
    intro slot member
    rw [normal slot member]
    exact (List.any_eq_false.mpr fun other isOther => by simp [normal other isOther]).symm
  | cons remap remaps =>
    intro slot member
    have special := isSpecial_of_mem_merge member
    rw [special]
    exact (List.any_eq_true.mpr ⟨slot, member, special⟩).symm

theorem any_isSpecial_iff (view : View) (date : Date) (remaps : List Remap) :
    (view.scheduleUnder date remaps).any (·.isSpecial) = true ↔
      ∃ remap ∈ remaps, ∃ pair ∈ remap.pairs,
        Timetable.Teaches ⟨view.entries⟩ remap.source pair.1 := by
  cases remaps with
  | nil => simp [scheduleUnder, normalSchedule, Slot.ofEntry]
  | cons remap remaps =>
    rw [List.any_eq_true]
    constructor
    · rintro ⟨slot, member, -⟩
      obtain ⟨source, listed, copied⟩ := List.mem_flatMap.mp member
      exact ⟨source, listed, exists_mem_copies.mp ⟨slot, copied⟩⟩
    · rintro ⟨source, listed, taught⟩
      obtain ⟨slot, copied⟩ := exists_mem_copies.mpr taught
      have member : slot ∈ view.merge (remap :: remaps) :=
        List.mem_flatMap.mpr ⟨source, listed, copied⟩
      exact ⟨slot, member, isSpecial_of_mem_merge member⟩

/-- The remaps in force are those of the record there is afterwards, if there is one: looking
for them stores what a marker asks for. -/
theorem exists_mem_remapsFor {view : View} {date : Date} {holds : Weekday → Period → Prop} :
    (∃ remap ∈ (view.remapsFor date).1, ∃ pair ∈ remap.pairs, holds remap.source pair.1) ↔
      ∃ record, (view.remapsFor date).2.recordOn date = some record ∧
        ∃ row ∈ record.rows, holds row.source row.sourcePeriod := by
  cases recorded : view.recordOn date with
  | some record =>
    rw [remapsFor_recorded recorded, Remap.exists_mem_regroup]
    simp [recorded]
  | none =>
    cases marked : view.marker? date with
    | none => simp [remapsFor_unmarked recorded marked, recorded]
    | some marker =>
      have stores : view.remapsFor date = view.materialize date marker := by
        rw [remapsFor, recorded, marked]
      simp [stores, materialize, Remap.exists_mem_flatten]

theorem remapsFor_entries (view : View) (date : Date) :
    (view.remapsFor date).2.entries = view.entries := by
  unfold remapsFor
  split <;> rfl

/-- The classes of a day are all copied or none of them is, and they are copied if the record
of the day then copies any. -/
theorem effectiveSchedule_special (view : View) (date : Date) :
    let found := view.effectiveSchedule date
    (∀ slot ∈ found.1, slot.isSpecial = found.1.any (·.isSpecial)) ∧
      (found.1.any (·.isSpecial) = true ↔ ∃ record, found.2.recordOn date = some record ∧
        record.Copies ⟨view.entries⟩) := by
  have copied := any_isSpecial_iff (view.remapsFor date).2 date (view.remapsFor date).1
  rw [remapsFor_entries] at copied
  exact ⟨isSpecial_eq_any _ date _, copied.trans exists_mem_remapsFor⟩

end View

namespace Http

/-- The body of the answer for a day. -/
def dayBody (date : Date) (special : Bool) (name? : Option String) (slots : List Slot) : Json :=
  .object ([("date", Encode.date date), ("special", .bool special)] ++
    Json.optional "pattern_name" (name?.map .text) ++ [("entries", Encode.slots slots)])

theorem scheduleBody_eq (date : Date) (slots : List Slot) (record? : Option Record) :
    scheduleBody date slots record? =
      dayBody date (slots.any (·.isSpecial)) (record?.map Record.patternName) slots := by
  rw [scheduleBody, dayBody, Option.map_map]
  rfl

namespace Request

/-- A GET of the schedule of the date. -/
structure AsksDay (request : Request) (date : Date) : Prop where
  method : request.method = "GET"
  route : ∃ raw, Route.ofTarget? request.target = some (.schedule raw) ∧ readPathDate raw = .ok date

/-- A GET of the special dates between the two. -/
structure AsksSpecials (request : Request) (first last : Date) : Prop where
  method : request.method = "GET"
  route : Route.ofTarget? request.target = some .specials
  range : readRange request.target.query = .ok (first, last)

/-- A GET is served as it stands. -/
theorem handle_of_get {request : Request} {route : Route} {σ : Type} [Backend σ]
    (method : request.method = "GET") (named : Route.ofTarget? request.target = some route)
    (state : σ) : handle request state = serve route "GET" request state := by
  have sends : request.method ≠ "HEAD" := by
    rw [method]
    decide
  rw [handle, named]
  dsimp only
  rw [if_neg sends, method]

theorem AsksDay.handle_eq {request : Request} {date : Date} {σ : Type} [Backend σ]
    (asks : request.AsksDay date) (state : σ) :
    handle request state = always (getSchedule date state) := by
  obtain ⟨raw, named, read⟩ := asks.route
  rw [handle_of_get asks.method named, serve, read]
  rfl

theorem AsksSpecials.handle_eq {request : Request} {first last : Date} {σ : Type} [Backend σ]
    (asks : request.AsksSpecials first last) (state : σ) :
    handle request state = always (getSpecials first last state) := by
  rw [handle_of_get asks.method asks.route, serve, asks.range]
  rfl

end Request

/-- The answer for a day has its classes in the order of the periods and the name of the record
that there is once the classes have been looked for. -/
theorem getSchedule_gives {σ : Type} [Backend σ] [Backend.Lawful σ] {state : σ} {view : View}
    (date : Date) (shown : Backend.Lawful.Shows state view) :
    let found := view.effectiveSchedule date
    Gives Backend.Lawful.Shows (getSchedule date state)
      (.ok (scheduleBody date (Slot.sortByPeriod found.1) (found.2.recordOn date)), found.2) := by
  intro found
  obtain ⟨between, ran, shows⟩ := (Engine.effectiveSchedule_gives date shown).ran
  obtain ⟨after, read, shows⟩ := (Backend.Lawful.record date shows).ran
  rw [getSchedule, ran]
  dsimp only
  rw [read]
  exact ⟨rfl, shows⟩

theorem Request.AsksDay.gives {σ : Type} [Backend σ] [Backend.Lawful σ] {state : σ} {view : View}
    {request : Request} {date : Date} (asks : request.AsksDay date)
    (shown : Backend.Lawful.Shows state view) :
    let found := view.effectiveSchedule date
    Gives Backend.Lawful.Shows (handle request state)
      (some (.ok (scheduleBody date (Slot.sortByPeriod found.1) (found.2.recordOn date))),
        found.2) := by
  obtain ⟨answered, after⟩ := getSchedule_gives date shown
  rw [asks.handle_eq]
  exact ⟨congrArg some answered, after⟩

/-- The dates are listed in an answer as they are in a step. -/
theorem getSpecials_eq {σ : Type} [Backend σ] {state : σ} {first last : Date} {dates : List Date}
    (listed : Outcome.ofStore .dates (Backend.specialDates first last state).1 = .dates dates) :
    (getSpecials first last state).1 = .ok (.array (dates.map Encode.date)) := by
  rw [getSpecials, answer]
  generalize Backend.specialDates first last state = ran at listed ⊢
  obtain ⟨result, after⟩ := ran
  cases result with
  | error error => cases listed
  | ok found =>
    cases listed
    rfl

end Http

theorem Date.isBetween_self_iff {date other : Date} : other.IsBetween date date ↔ other = date := by
  constructor
  · rintro ⟨notBefore, notAfter⟩
    rcases before_or_eq_or_after other date with before | same | after
    · exact absurd before notBefore
    · exact same
    · exact absurd after notAfter
  · rintro rfl
    exact ⟨not_before_self other, not_before_self other⟩

theorem Date.textIsBetween_self_iff {date other : Date} :
    other.TextIsBetween date date ↔ other = date := by
  rw [TextIsBetween, not_lt, not_lt, ← le_antisymm_iff, eq_comm, text_injective.eq_iff]

namespace Session

/-- If one date is asked for there is nothing for the texts to put out of order. -/
theorem textsFit_self (session : Session) (date : Date) : session.TextsFit date date where
  between_iff _ _ := Date.textIsBetween_self_iff.trans Date.isBetween_self_iff.symm
  lt_of_before early late _ _ earlyBetween lateBetween before := by
    rw [Date.isBetween_self_iff.mp earlyBetween, Date.isBetween_self_iff.mp lateBetween] at before
    exact absurd before date.not_before_self

namespace Shows

variable {session : Session} {view : View}

theorem askDay {request : Http.Request} {date : Date} (shown : session.Shows view)
    (asks : request.AsksDay date) :
    let found := view.effectiveSchedule date
    Gives Session.Shows (session.run (.http request))
      (.response (.ok (Http.scheduleBody date (Slot.sortByPeriod found.1)
        (found.2.recordOn date))), found.2) := by
  exact shown.run fun shown => (asks.gives shown).of Outcome.ofHttp

/-- The one date that is asked for is listed if it has a record. -/
theorem askSpecials {request : Http.Request} {date : Date} (shown : session.Shows view)
    (asks : request.AsksSpecials date date) :
    ∃ dates : List Date, (session.run (.http request)).1 =
        .response (.ok (.array (dates.map Encode.date))) ∧
      (date ∈ dates ↔ (view.recordOn date).isSome = true) := by
  obtain ⟨dates, listed, lists_iff⟩ := shown.specialDates date date
  have lists := lists_iff.mpr fun _ => session.textsFit_self date
  refine ⟨dates, ?_, ?_⟩
  · cases session with
    | memory state =>
      show Outcome.ofHttp (Http.handle request state).1 = _
      rw [asks.handle_eq, Http.always, Http.getSpecials_eq listed]
      rfl
    | tables inFile state =>
      show Outcome.ofHttp (Http.handle request state).1 = _
      rw [asks.handle_eq, Http.always, Http.getSpecials_eq listed]
      rfl
  · rw [lists.mem_iff, shown.hasRecord_iff, and_iff_left (Date.isBetween_self_iff.mpr rfl)]

end Shows

/-- The answer for a day, the record there is afterwards and the list of the special dates agree.
The classes are all copied or none of them is. They are called special if the record copies from
a cell with a class, which then goes by its name in the answer. A name is given if and only if
the day is listed. -/
theorem day_agrees_with_record {session : Session} (reachable : session.Reachable)
    (calm : session.faults = []) {date : Date} {ask list : Http.Request} (asks : ask.AsksDay date)
    (lists : list.AsksSpecials date date) :
    let after := (session.run (.http ask)).2
    ∃ (special : Bool) (name? : Option String) (slots : List Slot) (record? : Option Record)
      (dates : List Date),
      (session.run (.http ask)).1 = .response (.ok (Http.dayBody date special name? slots)) ∧
      (after.run (.record date)).1 = .record record? ∧
      (after.run (.http list)).1 = .response (.ok (.array (dates.map Encode.date))) ∧
      (∀ slot ∈ slots, slot.isSpecial = special) ∧
      (special = true ↔ ∃ record, record? = some record ∧ record.Copies session.timetable) ∧
      (special = true → ∃ record, record? = some record ∧ name? = some record.patternName ∧
        date ∈ dates) ∧
      (name? = none ↔ date ∉ dates) := by
  intro after
  obtain ⟨view, shown⟩ := reachable.shows calm
  obtain ⟨answered, shows⟩ := shown.askDay asks
  obtain ⟨dates, listed, listed_iff⟩ := Shows.askSpecials shows lists
  obtain ⟨alike, copied_iff⟩ := view.effectiveSchedule_special date
  generalize view.effectiveSchedule date = found at answered shows listed_iff alike copied_iff
  have perm := Slot.sortByPeriod_perm found.1
  have taught : (⟨view.entries⟩ : Timetable) = session.timetable :=
    congrArg Timetable.mk shown.base.entries
  rw [Http.scheduleBody_eq, perm.any_eq] at answered
  rw [taught] at copied_iff
  refine ⟨_, _, _, found.2.recordOn date, dates, answered, (shows.record date).1, listed,
    fun slot member => alike slot (perm.mem_iff.mp member), copied_iff, fun special => ?_, ?_⟩
  · obtain ⟨record, recorded, -⟩ := copied_iff.mp special
    refine ⟨record, recorded, by rw [recorded]; rfl, ?_⟩
    rw [listed_iff, recorded]
    rfl
  · rw [listed_iff, Option.map_eq_none_iff, Option.not_isSome_iff_eq_none]

/-- A marker that nobody has looked for, with two source periods of which one has a class. -/
def halfTaught : Session :=
  emptyTables.runAll
    [.replaceEntries [⟨.monday, 1, "数学", none, none⟩], .createMarker monday "月12→火12"]

def mondayQuery : Http.Request := ⟨"GET", ⟨"/schedule/2025-01-06".toList, []⟩, none, []⟩

def mondayListing : Http.Request :=
  ⟨"GET", ⟨"/specials".toList, "start=2025-01-06&end=2025-01-06".toList⟩, none, []⟩

theorem mondayQuery_asks : mondayQuery.AsksDay monday :=
  ⟨rfl, "2025-01-06".toList, rfl, monday_inPath⟩

theorem mondayListing_asks : mondayListing.AsksSpecials monday monday := by
  have pairs : Http.queryPairs mondayListing.target.query =
      [("start".toList, "2025-01-06".toList), ("end".toList, "2025-01-06".toList)] := by
    decide +kernel
  refine ⟨rfl, rfl, ?_⟩
  rw [Http.readRange, pairs]
  rfl

theorem day_agrees_with_record_halfTaught :
    let after := (halfTaught.run (.http mondayQuery)).2
    halfTaught.Reachable ∧ halfTaught.faults = [] ∧ mondayQuery.AsksDay monday ∧
      mondayListing.AsksSpecials monday monday ∧
      ∃ (special : Bool) (name? : Option String) (slots : List Slot) (record? : Option Record)
        (dates : List Date),
        (halfTaught.run (.http mondayQuery)).1 =
          .response (.ok (Http.dayBody monday special name? slots)) ∧
        (after.run (.record monday)).1 = .record record? ∧
        (after.run (.http mondayListing)).1 =
          .response (.ok (.array (dates.map Encode.date))) ∧
        special = true ∧ name? = some "月12→火12" ∧ monday ∈ dates := by
  intro after
  have reachable : halfTaught.Reachable := reachable_emptyTables.runAll _
  obtain ⟨special, name?, slots, record?, dates, answered, recorded, listed, -, copied, named, -⟩ :=
    day_agrees_with_record reachable rfl mondayQuery_asks mondayListing_asks
  have stored : (after.run (.record monday)).1 = .record (some ⟨monday, "月12→火12",
      (Period.range 1 2).map fun period => ⟨.monday, .tuesday, period, period, "月12→火12"⟩⟩) := by
    show (Session.run (.record monday) (tables false (Http.handle mondayQuery _).2)).1 = _
    rw [mondayQuery_asks.handle_eq]
    rfl
  obtain rfl := Outcome.record.inj (recorded.symm.trans stored)
  have taught : halfTaught.timetable.Teaches .monday ⟨1, by decide, by decide⟩ :=
    ⟨⟨.monday, 1, "数学", none, none⟩, List.mem_singleton_self _, rfl, rfl⟩
  have special : special = true := copied.mpr ⟨_, rfl, _, List.mem_cons_self, taught⟩
  obtain ⟨record, same, name, member⟩ := named special
  cases same
  exact ⟨reachable, rfl, mondayQuery_asks, mondayListing_asks, _, name?, slots, _, dates, answered,
    recorded, listed, special, name, member⟩

end Session

end SchoolWeek
