import Mathlib
import SchoolWeek.Proofs.Agreement

/-! What a date is spared. Whatever is done on other dates leaves its record and its
events as they were, handles included, and so the timetable, the lead and the permission.
Only the numbering of events may have moved on, so events that are still to come get
higher numbers than they would have had. -/
namespace SchoolWeek

open Backend.Lawful (Shows)

/-- Every date but this one, and nothing that belongs to no date. -/
def Scope.besides (date : Date) : Scope where
  timetable := False
  date := (· ≠ date)
  range _ _ := False
  handle _ := False

namespace View

variable {view : View} {date other : Date}

namespace AgreeOn

variable {within : Date → Prop} {renumber : Int → Int} {left middle right : View}

theorem refl (view : View) : view.AgreeOn within id view where
  entries := rfl
  lead := rfl
  permitted := rfl
  recordOn _ := rfl
  eventsOn _ := (List.map_id _).symm

theorem trans (same : left.AgreeOn within id middle) (agree : middle.AgreeOn within renumber right) :
    left.AgreeOn within renumber right where
  entries := same.entries.trans agree.entries
  lead := same.lead.trans agree.lead
  permitted := same.permitted.trans agree.permitted
  recordOn named := (same.recordOn named).trans (agree.recordOn named)
  eventsOn named := by
    rw [same.eventsOn named, agree.eventsOn named]
    exact List.map_id _

/-- Only the numbers of events that are there count. -/
theorem congr {others : Int → Int} (agree : left.AgreeOn within renumber right)
    (same : ∀ handle ∈ right.handles, others handle = renumber handle) :
    left.AgreeOn within others right where
  entries := agree.entries
  lead := agree.lead
  permitted := agree.permitted
  recordOn := agree.recordOn
  eventsOn {date} named := by
    rw [agree.eventsOn named]
    refine List.map_congr_left fun event member => ?_
    have there : event.handle ∈ right.handles := List.mem_map_of_mem (List.mem_filter.mp member).1
    rw [Event.renumbered, Event.renumbered, same event.handle there]

end AgreeOn

theorem withRecord_spares (apart : other ≠ date) (record? : Option Record) :
    (view.withRecord other record?).AgreeOn (· = date) id view where
  entries := rfl
  lead := rfl
  permitted := rfl
  recordOn := by
    rintro _ rfl
    exact withRecord_recordOn_of_ne view record? apart.symm
  eventsOn _ := (List.map_id _).symm

theorem spares_of_events {events : List Event}
    (same : events.filter (·.date == date) = view.eventsOn date) :
    View.AgreeOn (· = date) id { view with events } view where
  entries := rfl
  lead := rfl
  permitted := rfl
  recordOn _ := rfl
  eventsOn := by
    rintro _ rfl
    exact same.trans (List.map_id _).symm

theorem addEvent_spares (apart : other ≠ date) (handle : Int) (title : String) :
    (view.addEvent handle other title).2.AgreeOn (· = date) id view := by
  unfold addEvent
  cases made : Event.fullDay handle other title with
  | error error => exact .refl view
  | ok event =>
    have elsewhere : event.date ≠ date := (Event.fullDay_fields made).2.1 ▸ apart
    refine spares_of_events ?_
    simp [eventsOn, elsewhere]

theorem createMarker_spares (apart : other ≠ date) (handle : Int) (patternName : String) :
    (view.createMarker handle other patternName).2.AgreeOn (· = date) id view := by
  rw [createMarker_eq]
  split_ifs
  · cases made : Event.fullDay handle other (Marker.title view.lead patternName) with
    | error error => exact .refl view
    | ok event =>
      exact spares_of_events
        (view.eventsOn_marked_of_ne (Event.fullDay_fields made).2.1 apart.symm)
  · exact .refl view

/-- As handles are the numbers of single events, deleting a marker of one date by its
handle takes nothing from another. -/
theorem deleteFound_spares (valid : view.Valid) (apart : other ≠ date) {marker : Marker}
    (found : view.findMarker other = .ok (some marker)) :
    (view.deleteMarker marker.handle).2.AgreeOn (· = date) id view := by
  obtain ⟨-, event, member, numbered⟩ := mem_of_findMarker found
  obtain ⟨there, dated⟩ := List.mem_filter.mp member
  unfold deleteMarker
  split_ifs
  · refine spares_of_events ((view.eventsOn_withoutHandle marker.handle date).trans ?_)
    refine List.filter_eq_self.mpr fun kept keptMember => ?_
    obtain ⟨keptThere, keptDated⟩ := List.mem_filter.mp keptMember
    rw [bne_iff_ne]
    intro same
    have one : kept = event :=
      List.inj_on_of_nodup_map valid.distinct keptThere there (same.trans numbered.symm)
    refine apart ?_
    rw [← beq_iff_eq.mp dated, ← beq_iff_eq.mp keptDated, one]
  · exact .refl view
  · exact .refl view

end View

variable {σ : Type} [Backend σ] [Backend.Lawful σ]

/-- The state shows what the view has on this date and on all dates. -/
def Spared (date : Date) (view : View) (state : σ) : Prop :=
  ∃ shown, Shows state shown ∧ shown.AgreeOn (· = date) id view

namespace Spared

variable {date : Date} {view : View}

theorem of_gives {α : Type} {current : View} {ran : α × σ} {expected : α × View}
    (before : current.AgreeOn (· = date) id view) (gives : Gives Shows ran expected)
    (spares : expected.2.AgreeOn (· = date) id current) : Spared date view ran.2 :=
  ⟨expected.2, gives.2, spares.trans before⟩

/-- No operation on another date touches this one. -/
theorem alike (date : Date) (view : View) :
    Backend.Alike (Scope.besides date) id (Alone (Spared date view : σ → Prop)) where
  fetch day := by
    rintro ⟨rfl, current, shown, before⟩
    exact Alone.ran rfl (of_gives before (Backend.Lawful.fetch day shown) (.refl current))
  entries {_ _} := by
    rintro ⟨rfl, current, shown, before⟩
    exact Alone.ran rfl (of_gives before (Backend.Lawful.entries shown) (.refl current))
  replaceEntries _ exchanged := exchanged.elim
  replace {_ _ other} remaps patternName apart := by
    rintro ⟨rfl, current, shown, before⟩
    exact Alone.ran rfl (of_gives before (Backend.Lawful.replace other remaps patternName shown)
      (View.withRecord_spares apart _))
  rows {_ _ other} _ := by
    rintro ⟨rfl, current, shown, before⟩
    exact Alone.ran rfl (of_gives before (Backend.Lawful.rows other shown) (.refl current))
  clear {_ _ other} apart := by
    rintro ⟨rfl, current, shown, before⟩
    exact Alone.ran rfl (of_gives before (Backend.Lawful.clear other shown)
      (View.withRecord_spares apart _))
  record {_ _ other} _ := by
    rintro ⟨rfl, current, shown, before⟩
    exact Alone.ran rfl (of_gives before (Backend.Lawful.record other shown) (.refl current))
  specialDates listed := listed.elim
  findMarker {_ _ other} _ := by
    rintro ⟨rfl, current, shown, before⟩
    exact Alone.ran (Marker.map_renumbered_id _)
      (of_gives before (Backend.Lawful.findMarker other shown) (.refl current))
  createMarker {_ _ other} patternName apart := by
    rintro ⟨rfl, current, shown, before⟩
    obtain ⟨handle, -, created⟩ := Backend.Lawful.createMarker other patternName shown
    exact Alone.ran (congrFun Except.map_id _)
      (of_gives before created (View.createMarker_spares apart handle patternName))
  deleteMarker named := named.elim
  deleteFound {state _ after other marker} apart := by
    rintro ⟨rfl, current, shown, before⟩ found
    have finds := Backend.Lawful.findMarker other shown
    rw [found] at finds ⊢
    have deletes := Backend.Lawful.deleteMarker marker.handle finds.2
    exact Alone.ran rfl (of_gives before deletes
      (View.deleteFound_spares (Backend.Lawful.valid shown) apart finds.1.symm))

theorem books [EventBook σ] [EventBook.Lawful σ] (date : Date) (view : View) :
    EventBook.Alike (Scope.besides date) id (Alone (Spared date view : σ → Prop)) where
  addEvent {_ _ other} title apart := by
    rintro ⟨rfl, current, shown, before⟩
    obtain ⟨handle, -, added⟩ := EventBook.Lawful.addEvent other title shown
    exact Alone.ran (congrFun Except.map_id _)
      (of_gives before added (View.addEvent_spares apart handle title))
  eventsOn {_ _ other} _ := by
    rintro ⟨rfl, current, shown, before⟩
    exact Alone.ran (Event.map_renumbered_id _)
      (of_gives before (EventBook.Lawful.eventsOn other shown) (.refl current))

end Spared

variable [EventBook σ] [EventBook.Lawful σ]

/-- A step on another date spares this one. -/
theorem Step.run_spares {state : Traced σ} {view : View} {date : Date} {step : Step}
    (shown : Shows state view) (elsewhere : step.Within (Scope.besides date)) :
    Spared date view (step.run state).2 :=
  (step.run_alike (Spared.alike date view) (Spared.books date view) elsewhere
    ⟨rfl, view, shown, .refl view⟩).2.2

variable [Numbered σ]

/-- The renumbering once the left-hand numbering has moved on alone: events from the bound
on are moved by another offset. -/
def raised (renumber : Int → Int) (bound offset handle : Int) : Int :=
  if handle < bound then renumber handle else handle + offset

omit [Backend σ] [Backend.Lawful σ] [EventBook σ] [EventBook.Lawful σ] [Numbered σ] in
/-- Below the bound nothing is changed, and from there on the numbers stay above those. -/
theorem raised_strictMono {renumber : Int → Int} {bound offset : Int} (mono : StrictMono renumber)
    (reached : renumber bound ≤ bound + offset) : StrictMono (raised renumber bound offset) := by
  intro low high less
  unfold raised
  split_ifs with lowBelow highBelow highBelow
  · exact mono less
  · have below := mono lowBelow
    omega
  · omega
  · omega

omit [EventBook.Lawful σ] in
/-- The left-hand side may go ahead with what spares the dates looked at. -/
theorem Abreast.raise {τ : Type} [Backend τ] [Backend.Lawful τ] [EventBook τ] [Numbered τ]
    {within : Date → Prop} {renumber : Int → Int} {left after : σ} {right : τ}
    {view moved other : View} (abreast : Abreast within renumber left right view other)
    (shown : Shows after moved) (spared : moved.AgreeOn within id view)
    (later : Numbered.next left ≤ Numbered.next after) :
    Abreast within
      (raised renumber (Numbered.next right) (Numbered.next after - Numbered.next right))
      after right moved other where
  shownLeft := shown
  shownRight := abreast.shownRight
  agree := by
    refine (spared.trans abreast.agree).congr fun handle member => ?_
    exact if_pos (Numbered.fresh abreast.shownRight handle member)
  mono := raised_strictMono abreast.mono (by rw [abreast.renumber_next]; omega)
  apart above := if_neg (not_lt.mpr above)

/-- A step on another date, taken on the left only, leaves the sides abreast of each other
and the numbers of the events that the right-hand side has had. -/
theorem AreAbreast.elsewhere {left right : Traced σ} {date : Date} {renumber : Int → Int}
    {step : Step} (abreast : AreAbreast (· = date) renumber left right)
    (within : step.Within (Scope.besides date)) :
    ∃ others : Int → Int, (∀ handle < Numbered.next right, others handle = renumber handle) ∧
      AreAbreast (· = date) others (step.run left).2 right := by
  obtain ⟨view, other, abreast⟩ := abreast
  obtain ⟨moved, shown, spared⟩ := step.run_spares abreast.shownLeft within
  have later := Traced.next_le_run abreast.shownLeft step
  refine ⟨_, fun handle below => ?_, moved, other, abreast.raise shown spared later⟩
  exact if_pos below

end SchoolWeek
