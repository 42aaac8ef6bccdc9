import Mathlib
import SchoolWeek.Proofs.Cleared
import SchoolWeek.Proofs.Resemblance

/-! The last application decides. Whatever applications, removals and looks a date has seen,
one more application leaves the same records and the same events in the same order as it
would have left without them. From then on nothing but the numbers of the events made since
tells the two apart. -/
namespace SchoolWeek

namespace View

variable {view : View} {date : Date}

theorem marked_withoutMarkers (view : View) (date : Date) (event : Event) :
    (view.withoutMarkers date).marked date event = view.marked date event := by
  have again : (view.withoutMarkers date).withoutMarkers date = view.withoutMarkers date := by
    unfold withoutMarkers
    dsimp only
    rw [List.filter_filter]
    refine congrArg (fun events => { view with events }) (List.filter_congr fun other _ => ?_)
    exact Bool.and_self _
  rw [marked, again, marked]

/-- An application takes the place of whatever was special on the date. -/
theorem withRecord_marked (view : View) (date : Date) (event : Event) (record? : Option Record) :
    (view.marked date event).withRecord date record? =
      ((view.cleared date).marked date event).withRecord date record? := by
  have unrecorded : (view.cleared date).marked date event =
      (view.marked date event).withRecord date none :=
    (view.withRecord date none).marked_withoutMarkers date event
  rw [unrecorded, withRecord_withRecord]

/-- Views with the same left when their special schedules are taken away agree, once the
same is applied to both, but for the numbers of the markers. -/
theorem AgreeOn.applied {other : View} {event : Event} {renumber : Int → Int}
    (same : view.cleared date = other.cleared date) (here : event.date = date)
    (fixed : ∀ handle ∈ other.handles, renumber handle = handle) (record? : Option Record) :
    ((view.marked date (event.renumbered renumber)).withRecord date record?).AgreeOn
      (fun _ => True) renumber ((other.marked date event).withRecord date record?) := by
  rw [withRecord_marked, same, other.withRecord_marked]
  have kept : ∀ handle ∈ (other.cleared date).handles, renumber handle = id handle :=
    fun handle member => fixed handle ((List.filter_sublist.map Event.handle).subset member)
  exact (((AgreeOn.refl (other.cleared date)).congr kept).marked here).withRecord date record?

end View

namespace Session

/-- The sessions are the same but for the numbers of the events, and whatever is done in both
they go on giving the same schedules. -/
structure SameButNumbers (renumber : Int → Int) (left right : Session) : Prop where
  record (date : Date) : (left.run (.record date)).1 = (right.run (.record date)).1
  events (date : Date) :
    left.eventsOn date = (right.eventsOn date).map (Event.renumbered renumber)
  storedRemaps (date : Date) :
    (left.run (.storedRemaps date)).1 = (right.run (.storedRemaps date)).1
  effective (acts : List Act) (date : Date) : (∀ act ∈ acts, act.isForTests = false) →
    ((left.runActs (acts.map (Act.renumbered renumber))).run (.effective date)).1 =
      ((right.runActs acts).run (.effective date)).1

/-- Sessions abreast of each other on all dates are the same but for the numbers. -/
theorem SameButNumbers.of_agreeOn {left right : Session} {view other : View}
    {renumber : Int → Int} (kind : left.isMemory = right.isMemory) (shown : left.Shows view)
    (shownToo : right.Shows other) (agree : view.AgreeOn (fun _ => True) renumber other)
    (mono : StrictMono renumber)
    (apart : ∀ {handle}, right.next ≤ handle → renumber handle = handle + (left.next - right.next)) :
    SameButNumbers renumber left right := by
  have alike : LooksLike renumber left right :=
    ⟨kind, mono, apart, view, other, shown, shownToo, .of_agreeOn agree⟩
  refine ⟨fun date => ?_, fun date => ?_, alike.storedRemaps, fun acts date used => ?_⟩
  · rw [(shown.record date).1, (shownToo.record date).1, agree.recordOn trivial]
  · rw [shown.eventsOn, shownToo.eventsOn, agree.eventsOn trivial]
  · exact (alike.runActs used).effective date

/-- Sessions that are the same but for what is special on the date, and for the numbering of
the left one being ahead, are the same but for the numbers after the same application. -/
theorem Shows.applied_alike {left right : Session} {view other : View} {date : Date}
    (shown : left.Shows view) (shownToo : right.Shows other)
    (kind : left.isMemory = right.isMemory) (same : view.cleared date = other.cleared date)
    (ahead : right.next ≤ left.next) (permitted : view.permitted = true)
    (followed : date.next?.isSome) (patternName : String) (day : Weekday)
    (custom? : Option String) :
    ∃ renumber : Int → Int, StrictMono renumber ∧
      (∀ handle < right.next, renumber handle = handle) ∧
      SameButNumbers renumber (left.run (.applyOn date patternName day custom?)).2
        (right.run (.applyOn date patternName day custom?)).2 := by
  have lead : (view.cleared date).lead = (other.cleared date).lead := congrArg View.lead same
  have permittedToo : (view.cleared date).permitted = (other.cleared date).permitted :=
    congrArg View.permitted same
  change view.lead = other.lead at lead
  obtain ⟨event, made, -, shows, next⟩ :=
    shown.applies permitted followed patternName day custom?
  obtain ⟨eventToo, madeToo, -, showsToo, nextToo⟩ :=
    shownToo.applies (permittedToo.symm.trans permitted) followed patternName day custom?
  -- The numbers of events to come are moved by as many as the left-hand side is ahead.
  let renumber := raised id right.next (left.next - right.next)
  have fixed : ∀ handle < right.next, renumber handle = handle := fun handle below => if_pos below
  have moved {handle : Int} (above : right.next ≤ handle) :
      renumber handle = handle + (left.next - right.next) := if_neg (not_lt.mpr above)
  have mono : StrictMono renumber :=
    raised_strictMono strictMono_id (by rw [add_sub_cancel]; exact ahead)
  have numbered : event = eventToo.renumbered renumber := by
    have renumbered := Event.fullDay_renumber renumber right.next date
      (Marker.title other.lead (View.markerText patternName custom?))
    rw [moved le_rfl, add_sub_cancel, ← lead, made, lead, madeToo] at renumbered
    exact Except.ok.inj renumbered
  have agree := View.AgreeOn.applied same (Event.fullDay_fields madeToo).2.1
    (fun handle member => fixed handle (shownToo.fresh handle member))
    (some ⟨date, patternName, Remap.flatten (Plan.preview patternName day custom?) patternName⟩)
  rw [numbered] at shows
  refine ⟨renumber, mono, fixed, .of_agreeOn ?_ shows showsToo agree mono fun {handle} above => ?_⟩
  · rw [isMemory_run, isMemory_run, kind]
  · rw [nextToo] at above
    rw [next, nextToo, moved (by omega)]
    ring

/-- After any history of a date, an application leaves what it would have left at once, but
for the number of its marker, which is the one marker of the date. -/
theorem applyOn_overrides {session : Session} {date : Date} {history : List Step}
    {patternName : String} {day : Weekday} {custom? : Option String} {flag : Bool}
    (reachable : session.Reachable) (calm : session.faults = [])
    (schedule : ∀ step ∈ history, step.Schedules date)
    (answered :
      ((session.runAll history).run (.applyOn date patternName day custom?)).1 = .flag flag) :
    let applied := ((session.runAll history).run (.applyOn date patternName day custom?)).2
    let direct := session.run (.applyOn date patternName day custom?)
    direct.1 = .flag flag ∧ (∃ event, applied.markersOn date = [event]) ∧
      ∃ renumber : Int → Int, StrictMono renumber ∧
        (∀ handle < session.next, renumber handle = handle) ∧
        SameButNumbers renumber applied direct.2 := by
  intro applied direct
  obtain ⟨view, shown⟩ := reachable.shows calm
  obtain ⟨later, shownLater, same, ahead⟩ := shown.runAll_cleared schedule
  obtain ⟨permitted, rfl, handle, event, made, shows⟩ := shownLater.applyOn_ok answered
  have followed := Event.followed_of_fullDay made
  have permittedToo : (view.cleared date).permitted = true := same ▸ permitted
  obtain ⟨_, -, directly, -⟩ := shown.applies permittedToo followed patternName day custom?
  refine ⟨directly, ⟨event, ?_⟩, shownLater.applied_alike shown (isMemory_runAll _ _) same ahead
    permitted followed patternName day custom?⟩
  rw [shows.markersOn, View.withRecord_markersOn]
  exact View.markersOn_marked (View.isMarkerOn_of_fullDay made)

/-- A date that has been applied to, looked at and cleared by turns. -/
def wavering : List Step :=
  [.apply monday "短縮A時程" none, .effective monday, .remove monday, .effective monday,
    .applyOn monday "テスト" .friday (some "金1→月2"), .effective monday]

theorem applyOn_overrides_wavering :
    meeting.Reachable ∧ meeting.faults = [] ∧ (∀ step ∈ wavering, step.Schedules monday) ∧
      ((meeting.runAll wavering).run (.applyOn monday "行事" .wednesday (some " 月1→水1 "))).1 =
        .flag true ∧
      ∃ renumber : Int → Int, StrictMono renumber ∧
        (∀ handle < meeting.next, renumber handle = handle) ∧
        SameButNumbers renumber
          ((meeting.runAll wavering).run (.applyOn monday "行事" .wednesday (some " 月1→水1 "))).2
          (meeting.run (.applyOn monday "行事" .wednesday (some " 月1→水1 "))).2 := by
  have reachable : meeting.Reachable := reachable_emptyTables.runAll _
  have schedule : ∀ step ∈ wavering, step.Schedules monday := by decide
  have answered :
      ((meeting.runAll wavering).run (.applyOn monday "行事" .wednesday (some " 月1→水1 "))).1 =
        .flag true := by rfl
  obtain ⟨-, -, same⟩ := applyOn_overrides reachable rfl schedule answered
  exact ⟨reachable, rfl, schedule, answered, same⟩

end Session

end SchoolWeek
