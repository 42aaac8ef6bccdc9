import Mathlib
import SchoolWeek.Proofs.Application
import SchoolWeek.Proofs.Lockstep
import SchoolWeek.Proofs.Numbering

/-! Two views that agree on some dates, but for the numbers of their events. Whatever is
done on these dates in both of them answers alike and leaves them in agreement, so two
backends that show such views and number their events in step are in lockstep. -/
namespace SchoolWeek

open Backend.Lawful (Shows)

theorem Event.fullDay_renumber (renumber : Int → Int) (handle : Int) (date : Date)
    (title : String) :
    Event.fullDay (renumber handle) date title =
      (Event.fullDay handle date title).map (Event.renumbered renumber) := by
  unfold fullDay
  cases date.next? <;> rfl

theorem Marker.detect?_map_renumbered (renumber : Int → Int) (lead : String)
    (events : List Event) :
    detect? lead (events.map (Event.renumbered renumber)) =
      (detect? lead events).map (Marker.renumbered renumber) := by
  rw [detect?, detect?, List.find?_map, Option.map_map, Option.map_map]
  rfl

namespace View

variable {view : View} {date : Date}

theorem createMarker_eq (view : View) (handle : Int) (date : Date) (patternName : String) :
    view.createMarker handle date patternName =
      if view.permitted then
        match Event.fullDay handle date (Marker.title view.lead patternName) with
        | .error error => (.error error, view)
        | .ok event => (.ok handle, view.marked date event)
      else (.error .permissionDenied, view) := by
  unfold createMarker addEvent
  split
  · cases made : Event.fullDay handle date (Marker.title view.lead patternName) with
    | error error => rfl
    | ok event => rfl
  · rfl

theorem eventsOn_withoutHandle (view : View) (handle : Int) (date : Date) :
    (view.withoutHandle handle).eventsOn date =
      (view.eventsOn date).filter (·.handle != handle) := by
  simp only [eventsOn, withoutHandle, List.filter_filter, Bool.and_comm]

theorem markersOn_eq (view : View) (date : Date) :
    view.markersOn date =
      (view.eventsOn date).filter fun event => Marker.isTitle view.lead event.title := by
  rw [markersOn, eventsOn, List.filter_filter]
  exact List.filter_congr fun event _ => Bool.and_comm _ _

/-- The timetable, the lead and the permission are the same, and on these dates so are the
records and, but for their numbers, the events. -/
structure AgreeOn (within : Date → Prop) (renumber : Int → Int) (left right : View) : Prop where
  entries : left.entries = right.entries
  lead : left.lead = right.lead
  permitted : left.permitted = right.permitted
  recordOn {date : Date} : within date → left.recordOn date = right.recordOn date
  eventsOn {date : Date} : within date →
    left.eventsOn date = (right.eventsOn date).map (Event.renumbered renumber)

namespace AgreeOn

variable {within : Date → Prop} {renumber : Int → Int} {left right : View}

theorem findMarker (agree : left.AgreeOn within renumber right) (named : within date) :
    left.findMarker date =
      (right.findMarker date).map (Option.map (Marker.renumbered renumber)) := by
  rw [View.findMarker, View.findMarker, agree.permitted, agree.lead, agree.eventsOn named,
    Marker.detect?_map_renumbered]
  split <;> rfl

theorem withRecord (agree : left.AgreeOn within renumber right) (date : Date)
    (record? : Option Record) :
    (left.withRecord date record?).AgreeOn within renumber (right.withRecord date record?) where
  entries := agree.entries
  lead := agree.lead
  permitted := agree.permitted
  recordOn {other} named := by
    rw [View.withRecord, View.withRecord]
    dsimp only
    rw [agree.recordOn named]
  eventsOn := agree.eventsOn

theorem marked (agree : left.AgreeOn within renumber right) {event : Event}
    (here : event.date = date) :
    (left.marked date (event.renumbered renumber)).AgreeOn within renumber
      (right.marked date event) where
  entries := agree.entries
  lead := agree.lead
  permitted := agree.permitted
  recordOn := agree.recordOn
  eventsOn {other} named := by
    have hereToo : (event.renumbered renumber).date = date := here
    by_cases same : other = date
    · subst same
      rw [left.eventsOn_marked hereToo, right.eventsOn_marked here, agree.eventsOn named, agree.lead,
        List.filter_map, List.map_append]
      rfl
    · rw [left.eventsOn_marked_of_ne hereToo same, right.eventsOn_marked_of_ne here same,
        agree.eventsOn named]

theorem createMarker (agree : left.AgreeOn within renumber right) (handle : Int) (date : Date)
    (patternName : String) :
    (left.createMarker (renumber handle) date patternName).1 =
        (right.createMarker handle date patternName).1.map renumber ∧
      (left.createMarker (renumber handle) date patternName).2.AgreeOn within renumber
        (right.createMarker handle date patternName).2 := by
  rw [createMarker_eq, createMarker_eq, agree.permitted, agree.lead, Event.fullDay_renumber]
  split
  · cases made : Event.fullDay handle date (Marker.title right.lead patternName) with
    | error error => exact ⟨rfl, agree⟩
    | ok event => exact ⟨rfl, agree.marked (Event.fullDay_fields made).2.1⟩
  · exact ⟨rfl, agree⟩

theorem addEvent (agree : left.AgreeOn within renumber right) (handle : Int) (date : Date)
    (title : String) :
    (left.addEvent (renumber handle) date title).1 =
        (right.addEvent handle date title).1.map renumber ∧
      (left.addEvent (renumber handle) date title).2.AgreeOn within renumber
        (right.addEvent handle date title).2 := by
  rw [View.addEvent, View.addEvent, Event.fullDay_renumber]
  cases Event.fullDay handle date title with
  | error error => exact ⟨rfl, agree⟩
  | ok event =>
    refine ⟨rfl, agree.entries, agree.lead, agree.permitted, agree.recordOn, fun {other} named => ?_⟩
    show (left.events ++ [event.renumbered renumber]).filter (·.date == other) =
      ((right.events ++ [event]).filter (·.date == other)).map (Event.renumbered renumber)
    rw [List.filter_append, List.filter_append, List.map_append]
    refine congrArg₂ (· ++ ·) (agree.eventsOn named) ?_
    by_cases here : event.date = other
    · simp [Event.renumbered, here]
    · simp [Event.renumbered, here]

/-- As no two handles become one, taking an event away takes the same event away. -/
theorem withoutHandle (agree : left.AgreeOn within renumber right)
    (injective : Function.Injective renumber) (handle : Int) :
    (left.withoutHandle (renumber handle)).AgreeOn within renumber
      (right.withoutHandle handle) where
  entries := agree.entries
  lead := agree.lead
  permitted := agree.permitted
  recordOn := agree.recordOn
  eventsOn {other} named := by
    rw [eventsOn_withoutHandle, eventsOn_withoutHandle, agree.eventsOn named, List.filter_map]
    congr 2
    funext event
    rw [Bool.eq_iff_iff, Function.comp_apply, bne_iff_ne, bne_iff_ne]
    exact injective.ne_iff

theorem deleteFound (agree : left.AgreeOn within renumber right)
    (injective : Function.Injective renumber) (named : within date) {marker : Marker}
    (found : right.findMarker date = .ok (some marker)) :
    (left.deleteMarker (renumber marker.handle)).1 = (right.deleteMarker marker.handle).1 ∧
      (left.deleteMarker (renumber marker.handle)).2.AgreeOn within renumber
        (right.deleteMarker marker.handle).2 := by
  obtain ⟨permitted, event, member, same⟩ := mem_of_findMarker found
  have present : marker.handle ∈ right.handles :=
    List.mem_map.mpr ⟨event, (List.mem_filter.mp member).1, same⟩
  have alsoPresent : renumber marker.handle ∈ left.handles := by
    have renumbered : event.renumbered renumber ∈ left.eventsOn date := by
      rw [agree.eventsOn named]
      exact List.mem_map_of_mem member
    exact List.mem_map.mpr
      ⟨_, (List.mem_filter.mp renumbered).1, congrArg renumber same⟩
  rw [View.deleteMarker, View.deleteMarker, agree.permitted, if_pos permitted, if_pos permitted,
    if_pos present, if_pos alsoPresent]
  exact ⟨rfl, agree.withoutHandle injective marker.handle⟩

theorem markersOn (agree : left.AgreeOn within renumber right) (named : within date) :
    left.markersOn date = (right.markersOn date).map (Event.renumbered renumber) := by
  rw [markersOn_eq, markersOn_eq, agree.eventsOn named, agree.lead, List.filter_map]
  rfl

theorem marker? (agree : left.AgreeOn within renumber right) (named : within date) :
    left.marker? date = (right.marker? date).map (Marker.renumbered renumber) := by
  rw [View.marker?, View.marker?, agree.permitted, agree.lead, agree.eventsOn named,
    Marker.detect?_map_renumbered]
  split <;> rfl

theorem replaceEntries (agree : left.AgreeOn within renumber right) (entries : List Entry) :
    (left.replaceEntries entries).1 = (right.replaceEntries entries).1 ∧
      (left.replaceEntries entries).2.AgreeOn within renumber (right.replaceEntries entries).2 := by
  unfold View.replaceEntries
  split
  · exact ⟨rfl, agree⟩
  · exact ⟨rfl, rfl, agree.lead, agree.permitted, agree.recordOn, agree.eventsOn⟩

/-- The first markers of a date are the same on both sides, whatever their numbers. -/
theorem withoutFirstMarkers (agree : left.AgreeOn within renumber right)
    (injective : Function.Injective renumber) (named : within date) (count : Nat) :
    (left.withoutFirstMarkers date count).AgreeOn within renumber
      (right.withoutFirstMarkers date count) := by
  induction count generalizing left right with
  | zero => exact agree
  | succ count ih =>
    rw [View.withoutFirstMarkers, View.withoutFirstMarkers, agree.markersOn named, List.head?_map]
    cases (right.markersOn date).head? with
    | none => exact agree
    | some event => exact ih (agree.withoutHandle injective event.handle)

/-- Views that agree on all dates have the same events. -/
theorem mem_handles (agree : left.AgreeOn (fun _ => True) renumber right)
    (injective : Function.Injective renumber) (handle : Int) :
    renumber handle ∈ left.handles ↔ handle ∈ right.handles := by
  have listed {view : View} {event : Event} (member : event ∈ view.events) :
      event ∈ view.eventsOn event.date := List.mem_filter.mpr ⟨member, beq_self_eq_true _⟩
  constructor
  · intro member
    obtain ⟨event, stored, same⟩ := List.mem_map.mp member
    have renumbered := listed stored
    rw [agree.eventsOn trivial] at renumbered
    obtain ⟨other, there, rfl⟩ := List.mem_map.mp renumbered
    exact List.mem_map.mpr ⟨other, (List.mem_filter.mp there).1, injective same⟩
  · intro member
    obtain ⟨event, stored, rfl⟩ := List.mem_map.mp member
    have renumbered : event.renumbered renumber ∈ left.eventsOn event.date := by
      rw [agree.eventsOn trivial]
      exact List.mem_map_of_mem (listed stored)
    exact List.mem_map.mpr ⟨_, (List.mem_filter.mp renumbered).1, rfl⟩

/-- What is deleted by its handle on one side is deleted by its own on the other. -/
theorem deleteMarker (agree : left.AgreeOn (fun _ => True) renumber right)
    (injective : Function.Injective renumber) (handle : Int) :
    (left.deleteMarker (renumber handle)).2.AgreeOn (fun _ => True) renumber
      (right.deleteMarker handle).2 := by
  rw [View.deleteMarker, View.deleteMarker, agree.permitted]
  simp only [agree.mem_handles injective]
  split_ifs
  · exact agree.withoutHandle injective handle
  · exact agree
  · exact agree

end AgreeOn

end View

/-- The states show views that agree within these dates, and events still to come get
numbers at a fixed distance. -/
structure Abreast {σ τ : Type} [Backend σ] [Backend.Lawful σ] [EventBook σ] [Numbered σ] [Backend τ]
    [Backend.Lawful τ] [EventBook τ] [Numbered τ] (within : Date → Prop)
    (renumber : Int → Int) (left : σ) (right : τ) (view other : View) : Prop where
  shownLeft : Shows left view
  shownRight : Shows right other
  agree : view.AgreeOn within renumber other
  mono : StrictMono renumber
  apart {handle : Int} : Numbered.next right ≤ handle →
    renumber handle = handle + (Numbered.next left - Numbered.next right)

def AreAbreast {σ τ : Type} [Backend σ] [Backend.Lawful σ] [EventBook σ] [Numbered σ] [Backend τ]
    [Backend.Lawful τ] [EventBook τ] [Numbered τ] (within : Date → Prop)
    (renumber : Int → Int) (left : σ) (right : τ) : Prop :=
  ∃ view other, Abreast within renumber left right view other

namespace Abreast

variable {σ τ α : Type} [Backend σ] [Backend.Lawful σ] [EventBook σ] [Numbered σ] [Backend τ]
  [Backend.Lawful τ] [EventBook τ] [Numbered τ] {within : Date → Prop}
  {renumber : Int → Int} {left : σ} {right : τ} {view other : View}

theorem renumber_next (abreast : Abreast within renumber left right view other) :
    renumber (Numbered.next right) = Numbered.next left := by
  rw [abreast.apart le_rfl]
  ring

/-- Both sides do what the views say, and their numberings move on together. -/
theorem moved (abreast : Abreast within renumber left right view other)
    {rename : α → α} {ranLeft : α × σ} {ranRight : α × τ} {expected otherExpected : α × View}
    {taken : Int} (givesLeft : Gives Shows ranLeft expected)
    (givesRight : Gives Shows ranRight otherExpected)
    (result : expected.1 = rename otherExpected.1)
    (agree : expected.2.AgreeOn within renumber otherExpected.2)
    (nonneg : 0 ≤ taken) (nextLeft : Numbered.next ranLeft.2 = Numbered.next left + taken)
    (nextRight : Numbered.next ranRight.2 = Numbered.next right + taken) :
    Agree (AreAbreast within renumber) rename ranLeft ranRight := by
  refine ⟨?_, _, _, givesLeft.2, givesRight.2, agree, abreast.mono, fun {handle} above => ?_⟩
  · rw [givesLeft.1, givesRight.1, result]
  · rw [nextRight] at above
    rw [abreast.apart (by omega), nextLeft, nextRight]
    ring

/-- Nothing changes on either side but what is kept of reading. -/
theorem read (abreast : Abreast within renumber left right view other) {rename : α → α}
    {ranLeft : α × σ} {ranRight : α × τ} {value otherValue : α}
    (givesLeft : Gives Shows ranLeft (value, view))
    (givesRight : Gives Shows ranRight (otherValue, other)) (result : value = rename otherValue)
    (nextLeft : Numbered.next ranLeft.2 = Numbered.next left)
    (nextRight : Numbered.next ranRight.2 = Numbered.next right) :
    Agree (AreAbreast within renumber) rename ranLeft ranRight :=
  abreast.moved givesLeft givesRight result abreast.agree le_rfl
    (nextLeft.trans (add_zero _).symm) (nextRight.trans (add_zero _).symm)

/-- The record of a date is exchanged on both sides. -/
theorem recorded (abreast : Abreast within renumber left right view other) {date : Date}
    {record? : Option Record} {rename : α → α} {ranLeft : α × σ} {ranRight : α × τ}
    {value otherValue : α}
    (givesLeft : Gives Shows ranLeft (value, view.withRecord date record?))
    (givesRight : Gives Shows ranRight (otherValue, other.withRecord date record?))
    (result : value = rename otherValue) (nextLeft : Numbered.next ranLeft.2 = Numbered.next left)
    (nextRight : Numbered.next ranRight.2 = Numbered.next right) :
    Agree (AreAbreast within renumber) rename ranLeft ranRight :=
  abreast.moved givesLeft givesRight result (abreast.agree.withRecord date record?) le_rfl
    (nextLeft.trans (add_zero _).symm) (nextRight.trans (add_zero _).symm)

end Abreast

/-- Backends abreast of each other are in lockstep, as far as listing dates and deleting
events by handle go the same way. -/
theorem AreAbreast.alike {σ τ : Type} [Backend σ] [Backend.Lawful σ] [EventBook σ] [Numbered σ]
    [Backend τ] [Backend.Lawful τ] [EventBook τ] [Numbered τ] {within : Date → Prop}
    {renumber : Int → Int} {scope : Scope}
    (named : ∀ {date}, scope.date date → within date)
    (taken : ∀ {date}, scope.date date → Numbered.taken σ date = Numbered.taken τ date)
    (listed : ∀ {left : σ} {right : τ} {first last}, scope.range first last →
      AreAbreast within renumber left right →
      Agree (AreAbreast within renumber) id (Backend.specialDates first last left)
        (Backend.specialDates first last right))
    (deleted : ∀ {left : σ} {right : τ} {handle}, scope.handle handle →
      AreAbreast within renumber left right →
      Agree (AreAbreast within renumber) id (Backend.deleteMarker handle left)
        (Backend.deleteMarker handle right)) :
    Backend.Alike scope renumber (AreAbreast within renumber : σ → τ → Prop) where
  fetch {left right} day := fun ⟨view, other, abreast⟩ =>
    abreast.read (Backend.Lawful.fetch day abreast.shownLeft)
      (Backend.Lawful.fetch day abreast.shownRight)
      (by rw [View.classesOn, View.classesOn, abreast.agree.entries]; rfl)
      (Numbered.fetch day left) (Numbered.fetch day right)
  entries {left right} := fun ⟨view, other, abreast⟩ =>
    abreast.read (Backend.Lawful.entries abreast.shownLeft)
      (Backend.Lawful.entries abreast.shownRight) (by rw [abreast.agree.entries]; rfl)
      (Numbered.entries left) (Numbered.entries right)
  replaceEntries {left right} list _ := fun ⟨view, other, abreast⟩ => by
    obtain ⟨result, agree⟩ := abreast.agree.replaceEntries list
    exact abreast.moved (Backend.Lawful.replaceEntries list abreast.shownLeft)
      (Backend.Lawful.replaceEntries list abreast.shownRight) result agree le_rfl
      ((Numbered.replaceEntries list left).trans (add_zero _).symm)
      ((Numbered.replaceEntries list right).trans (add_zero _).symm)
  replace {left right date} remaps patternName inScope := fun ⟨view, other, abreast⟩ =>
    abreast.recorded
      (Backend.Lawful.replace date remaps patternName abreast.shownLeft)
      (Backend.Lawful.replace date remaps patternName abreast.shownRight) rfl
      (Numbered.replace date remaps patternName left)
      (Numbered.replace date remaps patternName right)
  rows {left right date} inScope := fun ⟨view, other, abreast⟩ =>
    abreast.read (Backend.Lawful.rows date abreast.shownLeft)
      (Backend.Lawful.rows date abreast.shownRight)
      (by rw [View.rowsOn, View.rowsOn, abreast.agree.recordOn (named inScope)]; rfl)
      (Numbered.rows date left) (Numbered.rows date right)
  clear {left right date} inScope := fun ⟨view, other, abreast⟩ =>
    abreast.recorded (Backend.Lawful.clear date abreast.shownLeft)
      (Backend.Lawful.clear date abreast.shownRight)
      (by rw [abreast.agree.recordOn (named inScope)]; rfl) (Numbered.clear date left)
      (Numbered.clear date right)
  record {left right date} inScope := fun ⟨view, other, abreast⟩ =>
    abreast.read (Backend.Lawful.record date abreast.shownLeft)
      (Backend.Lawful.record date abreast.shownRight)
      (by rw [abreast.agree.recordOn (named inScope)]; rfl) (Numbered.record date left)
      (Numbered.record date right)
  specialDates := listed
  findMarker {left right date} inScope := fun ⟨view, other, abreast⟩ =>
    abreast.read (Backend.Lawful.findMarker date abreast.shownLeft)
      (Backend.Lawful.findMarker date abreast.shownRight)
      (abreast.agree.findMarker (named inScope)) (Numbered.findMarker date left)
      (Numbered.findMarker date right)
  createMarker {left right date} patternName inScope := fun ⟨view, other, abreast⟩ => by
    obtain ⟨resultLeft, shownLeft, nextLeft⟩ :=
      Numbered.createMarker date patternName abreast.shownLeft
    obtain ⟨resultRight, shownRight, nextRight⟩ :=
      Numbered.createMarker date patternName abreast.shownRight
    -- Each side gives the next number of its own, and the renumbering takes one to the other.
    have creates := abreast.agree.createMarker (Numbered.next right) date patternName
    rw [abreast.renumber_next] at creates
    rw [abreast.agree.permitted, taken inScope] at nextLeft
    have nonneg : 0 ≤ if other.permitted then Numbered.taken τ date else 0 := by
      split_ifs
      · exact Numbered.taken_nonneg date
      · exact le_rfl
    exact abreast.moved ⟨resultLeft, shownLeft⟩ ⟨resultRight, shownRight⟩ creates.1 creates.2
      nonneg (nextLeft.trans (by split_ifs <;> simp)) (nextRight.trans (by split_ifs <;> simp))
  deleteMarker := deleted
  deleteFound {left right after date marker} inScope := fun ⟨view, other, abreast⟩ found => by
    have foundLeft := Backend.Lawful.findMarker date abreast.shownLeft
    have foundRight := Backend.Lawful.findMarker date abreast.shownRight
    have nextLeft := Numbered.findMarker date left
    have nextRight := Numbered.findMarker date right
    rw [found] at foundRight nextRight
    obtain ⟨deletes, agree⟩ := abreast.agree.deleteFound abreast.mono.injective (named inScope)
      foundRight.1.symm
    exact abreast.moved (Backend.Lawful.deleteMarker _ foundLeft.2)
      (Backend.Lawful.deleteMarker _ foundRight.2) deletes agree le_rfl
      ((Numbered.deleteMarker _ _).trans (nextLeft.trans (add_zero _).symm))
      ((Numbered.deleteMarker _ _).trans (nextRight.trans (add_zero _).symm))

theorem AreAbreast.books {σ τ : Type} [Backend σ] [Backend.Lawful σ] [EventBook σ]
    [EventBook.Lawful σ] [Numbered σ] [Backend τ] [Backend.Lawful τ] [EventBook τ]
    [EventBook.Lawful τ] [Numbered τ] {within : Date → Prop} {renumber : Int → Int}
    {scope : Scope} (named : ∀ {date}, scope.date date → within date)
    (taken : ∀ {date}, scope.date date → Numbered.taken σ date = Numbered.taken τ date) :
    EventBook.Alike scope renumber (AreAbreast within renumber : σ → τ → Prop) where
  addEvent {left right date} title inScope := fun ⟨view, other, abreast⟩ => by
    obtain ⟨resultLeft, shownLeft, nextLeft⟩ := Numbered.addEvent date title abreast.shownLeft
    obtain ⟨resultRight, shownRight, nextRight⟩ := Numbered.addEvent date title abreast.shownRight
    have adds := abreast.agree.addEvent (Numbered.next right) date title
    rw [abreast.renumber_next] at adds
    rw [taken inScope] at nextLeft
    exact abreast.moved ⟨resultLeft, shownLeft⟩ ⟨resultRight, shownRight⟩ adds.1 adds.2
      (Numbered.taken_nonneg date) nextLeft nextRight
  eventsOn {left right date} inScope := fun ⟨view, other, abreast⟩ =>
    abreast.read (EventBook.Lawful.eventsOn date abreast.shownLeft)
      (EventBook.Lawful.eventsOn date abreast.shownRight)
      (congrArg Except.ok (abreast.agree.eventsOn (named inScope)))
      (Numbered.eventsOn date left) (Numbered.eventsOn date right)

end SchoolWeek
