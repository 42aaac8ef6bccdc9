import Mathlib
import SchoolWeek.Proofs.Elsewhere
import SchoolWeek.Proofs.SpecialDates

/-! Dates do not interfere. In a run of steps that name one date at most, those on other
dates than a given one can be left out: every step that remains answers as it did, but
for the handles of the events made meanwhile, whose order stays. -/
namespace SchoolWeek

open Backend.Lawful (Shows)

/-- This date, and what belongs to no date. -/
def Scope.only (date : Date) : Scope where
  timetable := True
  date := (· = date)
  range _ _ := False
  handle _ := False

/-- The step names one date at most, names no event by its handle and looks at nothing that
only tests look at. -/
def Step.IsConfined : Step → Prop
  | specialDates _ _ | deleteMarker _ | takeCalls | setFault _ => False
  | http request => Http.Route.ofTarget? request.target ≠ some .specials
  | _ => True

instance : DecidablePred Step.IsConfined := fun step => by
  unfold Step.IsConfined
  split <;> infer_instance

namespace Step.IsConfined

theorem few {step : Step} (confined : step.IsConfined) : step.dates.length ≤ 1 := by
  cases step with
  | http request => exact Http.Request.length_dates_le confined
  | specialDates _ _ | deleteMarker _ | takeCalls | setFault _ => exact confined.elim
  | replaceEntries _ | entries | fetch _ | merge _ => exact Nat.zero_le 1
  | _ => exact le_rfl

/-- A confined step keeps to a scope by the date that it names, if it names one. -/
theorem within {step : Step} {scope : Scope} (confined : step.IsConfined)
    (dates : ∀ date ∈ step.dates, scope.date date) (dateless : step.dates = [] → scope.timetable) :
    step.Within scope := by
  refine step.within_of_dates dates dateless (fun first last named => ?_)
    (fun handle deletes => ?_) ?_ ?_
  · have few := confined.few
    rw [named] at few
    exact absurd few (Nat.not_succ_le_self 1)
  · rw [deletes] at confined
    exact confined.elim
  · rintro rfl
    exact confined
  · rintro fault rfl
    exact confined

/-- A confined step that names another date names no date but that. -/
theorem within_besides {step : Step} {date : Date} (confined : step.IsConfined)
    (elsewhere : ∃ other ∈ step.dates, other ≠ date) : step.Within (Scope.besides date) := by
  obtain ⟨other, named, apart⟩ := elsewhere
  obtain ⟨single, dates⟩ := List.length_eq_one_iff.mp
    (le_antisymm confined.few (List.length_pos_of_mem named))
  rw [dates] at named
  refine confined.within (fun another member => ?_) fun dateless => ?_
  · rw [dates, ← List.mem_singleton.mp named] at member
    rw [List.mem_singleton.mp member]
    exact apart
  · rw [dates] at dateless
    cases dateless

end Step.IsConfined

/-- A step that both sides take answers alike and leaves them abreast of each other. -/
theorem AreAbreast.together {σ : Type} [Backend σ] [Backend.Lawful σ] [EventBook σ]
    [EventBook.Lawful σ] [Numbered σ] {left right : Traced σ} {date : Date} {renumber : Int → Int}
    {step : Step} (abreast : AreAbreast (· = date) renumber left right)
    (within : step.Within (Scope.only date)) :
    Agree (AreAbreast (· = date) renumber) (Outcome.renumbered renumber) (step.run left)
      (step.run right) := by
  have alike : Backend.Alike (Scope.only date) renumber
      (AreAbreast (· = date) renumber : Traced σ → Traced σ → Prop) :=
    AreAbreast.alike (fun named => named) (fun _ => rfl) (fun listed => False.elim listed)
      fun named => False.elim named
  have books : EventBook.Alike (Scope.only date) renumber
      (AreAbreast (· = date) renumber : Traced σ → Traced σ → Prop) :=
    AreAbreast.books (fun named => named) fun _ => rfl
  exact step.run_alike alike books within abreast

theorem Outcome.renumbered_congr {renumber others : Int → Int} {outcome : Outcome}
    (same : ∀ handle ∈ outcome.handles, others handle = renumber handle) :
    outcome.renumbered others = outcome.renumbered renumber := by
  cases outcome with
  | handle value => exact congrArg handle (same value (List.mem_singleton_self value))
  | events list =>
    refine congrArg events (List.map_congr_left fun event member => ?_)
    rw [Event.renumbered, Event.renumbered, same event.handle (List.mem_map_of_mem member)]
  | marker marker? =>
    cases marker? with
    | none => rfl
    | some found =>
      refine congrArg (marker ∘ some) ?_
      rw [Marker.renumbered, Marker.renumbered, same found.handle (List.mem_singleton_self _)]
  | _ => rfl

theorem Outcome.renumbered_of_bare {renumber : Int → Int} {outcome : Outcome}
    (bare : outcome.handles = []) : outcome.renumbered renumber = outcome := by
  have same : outcome.renumbered renumber = outcome.renumbered id := by
    refine renumbered_congr fun handle given => ?_
    rw [bare] at given
    cases given
  rw [same, renumbered_id]

/-- A step open to the memory only answers by the timetable, names no event, and changes
nothing but the timetable and the permission. -/
theorem MemoryStep.run_eq (step : MemoryStep) :
    ∃ (answer : Timetable → Outcome) (refill : Timetable → Timetable) (grant : Bool → Bool),
      (∀ timetable, (answer timetable).handles = []) ∧
      ∀ state : Traced Memory, step.run state =
        let refilled := { state.base with timetable := refill state.base.timetable }
        (answer state.base.timetable,
          { state with base := refilled.setPermission (grant state.base.calendar.permitted) }) := by
  cases step with
  | upsert entry =>
    refine ⟨fun timetable => Outcome.ofStore (fun _ => .done)
        ((timetable.upsert entry).mapError .badData),
      fun timetable => (timetable.upsert entry).toOption.getD timetable, id,
      fun _ => Outcome.handles_ofStore (fun _ => rfl) _, fun state => ?_⟩
    rw [run, Traced.below, Memory.upsert]
    dsimp only
    cases state.base.timetable.upsert entry <;> rfl
  | removeEntry day period =>
    exact ⟨fun timetable => .flag (timetable.remove day period).1,
      fun timetable => (timetable.remove day period).2, id, fun _ => rfl, fun _ => rfl⟩
  | permission granted =>
    exact ⟨fun _ => .done, id, fun _ => granted, fun _ => rfl, fun _ => rfl⟩

/-- So does a step open to the memory only. -/
theorem AreAbreast.inMemory {left right : Traced Memory} {within : Date → Prop}
    {renumber : Int → Int} (abreast : AreAbreast within renumber left right) (step : MemoryStep) :
    Agree (AreAbreast within renumber) (Outcome.renumbered renumber) (step.run left)
      (step.run right) := by
  obtain ⟨answer, refill, grant, bare, ran⟩ := step.run_eq
  obtain ⟨_, _, ⟨calmLeft, soundLeft, rfl⟩, ⟨calmRight, soundRight, rfl⟩, agree, mono, apart⟩ :=
    abreast
  have same : left.base.timetable = right.base.timetable := congrArg Timetable.mk agree.entries
  have permitted : grant left.base.calendar.permitted = grant right.base.calendar.permitted :=
    congrArg grant agree.permitted
  rw [ran left, ran right, same, permitted]
  refine ⟨(Outcome.renumbered_of_bare (bare _)).symm, _, _, ⟨calmLeft, ?_, rfl⟩,
    ⟨calmRight, ?_, rfl⟩, ⟨rfl, agree.lead, rfl, agree.recordOn, agree.eventsOn⟩, mono, apart⟩
  · exact (soundLeft.withTimetable _).setPermission _
  · exact (soundRight.withTimetable _).setPermission _

namespace Session

/-- A step open to every session or to those in memory. -/
inductive Act
  | common (step : Step)
  | inMemory (step : MemoryStep)

namespace Act

def run (act : Act) (session : Session) : Outcome × Session :=
  match act with
  | common step => session.run step
  | inMemory step => session.runMemory step

/-- The dates that the act names. -/
def dates : Act → List Date
  | common step => step.dates
  | inMemory _ => []

def IsConfined : Act → Prop
  | common step => step.IsConfined
  | inMemory _ => True

instance : DecidablePred IsConfined := fun act => by
  cases act <;> unfold IsConfined <;> infer_instance

/-- The act names this date or none. -/
def concerns (date : Date) (act : Act) : Bool := act.dates.all (· == date)

end Act

/-- The acts and their outcomes, one after the other. -/
def transcript : List Act → Session → List (Act × Outcome)
  | [], _ => []
  | act :: acts, session => (act, (act.run session).1) :: transcript acts (act.run session).2

/-- The handle that the next event gets. -/
def next : Session → Int
  | memory state => Numbered.next state
  | tables _ state => Numbered.next state

/-- Sessions of one kind, abreast of each other on the date. -/
inductive Beside (date : Date) (renumber : Int → Int) : Session → Session → Prop
  | memory {left right : Traced Memory} : AreAbreast (· = date) renumber left right →
    Beside date renumber (.memory left) (.memory right)
  | tables (inFile : Bool) {left right : Traced TableStore} :
    AreAbreast (· = date) renumber left right →
    Beside date renumber (.tables inFile left) (.tables inFile right)

namespace Beside

variable {date : Date} {renumber : Int → Int} {left right session : Session}

/-- Every calm session is abreast of itself. -/
theorem refl {view : View} (shown : session.Shows view) : Beside date id session session := by
  have apart (next handle : Int) : id handle = handle + (next - next) := by simp
  cases session with
  | memory state =>
    exact .memory ⟨view, view, shown, shown, .refl view, strictMono_id, fun _ => apart _ _⟩
  | tables inFile state =>
    exact .tables inFile ⟨view, view, shown, shown, .refl view, strictMono_id, fun _ => apart _ _⟩

theorem mono (beside : Beside date renumber left right) : StrictMono renumber := by
  cases beside with
  | memory abreast =>
    obtain ⟨_, _, abreast⟩ := abreast
    exact abreast.mono
  | tables inFile abreast =>
    obtain ⟨_, _, abreast⟩ := abreast
    exact abreast.mono

theorem shownRight (beside : Beside date renumber left right) : ∃ view, right.Shows view := by
  cases beside with
  | memory abreast =>
    obtain ⟨_, other, abreast⟩ := abreast
    exact ⟨other, abreast.shownRight⟩
  | tables inFile abreast =>
    obtain ⟨_, other, abreast⟩ := abreast
    exact ⟨other, abreast.shownRight⟩

/-- An act that concerns the date answers alike on both sides. -/
theorem together {act : Act} (beside : Beside date renumber left right)
    (confined : act.IsConfined) (concerned : act.concerns date = true) :
    Agree (Beside date renumber) (Outcome.renumbered renumber) (act.run left) (act.run right) := by
  cases act with
  | common step =>
    have named : ∀ other ∈ step.dates, other = date := by
      simpa [Act.concerns, Act.dates] using concerned
    have within : step.Within (Scope.only date) :=
      Step.IsConfined.within confined named fun _ => trivial
    cases beside with
    | memory abreast =>
      obtain ⟨answer, after⟩ := abreast.together within
      exact ⟨answer, .memory after⟩
    | tables inFile abreast =>
      obtain ⟨answer, after⟩ := abreast.together within
      exact ⟨answer, .tables inFile after⟩
  | inMemory step =>
    cases beside with
    | memory abreast =>
      obtain ⟨answer, after⟩ := abreast.inMemory step
      exact ⟨answer, .memory after⟩
    | tables inFile abreast => exact ⟨rfl, .tables inFile abreast⟩

/-- Any other act may be taken on the left only. -/
theorem elsewhere {act : Act} (beside : Beside date renumber left right)
    (confined : act.IsConfined) (apart : ¬ act.concerns date = true) :
    ∃ others : Int → Int, (∀ handle < right.next, others handle = renumber handle) ∧
      Beside date others (act.run left).2 right := by
  cases act with
  | inMemory step => exact (apart rfl).elim
  | common step =>
    have named : ∃ other ∈ step.dates, other ≠ date := by
      simpa [Act.concerns, Act.dates] using apart
    have within := Step.IsConfined.within_besides confined named
    cases beside with
    | memory abreast =>
      obtain ⟨others, same, after⟩ := abreast.elsewhere within
      exact ⟨others, same, .memory after⟩
    | tables inFile abreast =>
      obtain ⟨others, same, after⟩ := abreast.elsewhere within
      exact ⟨others, same, .tables inFile after⟩

end Beside

namespace Shows

variable {session : Session} {view : View}

theorem next_le_run (shown : session.Shows view) (act : Act) :
    session.next ≤ (act.run session).2.next := by
  cases act with
  | common step =>
    cases session with
    | memory state => exact Traced.next_le_run shown step
    | tables inFile state => exact Traced.next_le_run shown step
  | inMemory step =>
    cases session with
    | memory state =>
      obtain ⟨_, _, _, -, ran⟩ := step.run_eq
      show Numbered.next state ≤ Numbered.next (step.run state).2
      rw [ran state]
      exact Int.le_refl _
    | tables inFile state => exact le_rfl

theorem handles_lt_next (shown : session.Shows view) (act : Act) {handle : Int}
    (given : handle ∈ (act.run session).1.handles) : handle < (act.run session).2.next := by
  cases act with
  | common step =>
    cases session with
    | memory state => exact Step.handles_lt_next shown step given
    | tables inFile state => exact Step.handles_lt_next shown step given
  | inMemory step =>
    cases session with
    | memory state =>
      obtain ⟨_, _, _, bare, ran⟩ := step.run_eq
      change handle ∈ (step.run state).1.handles at given
      rw [ran state, bare] at given
      cases given
    | tables inFile state => cases given

end Shows

/-- By induction on the acts. An act that concerns the date is taken on both sides, any
other on the left only, which moves the numbers of events still to come. -/
theorem filter_transcript_beside {acts : List Act} {date : Date} {renumber : Int → Int}
    {left right : Session} (confined : ∀ act ∈ acts, act.IsConfined)
    (beside : Beside date renumber left right) :
    ∃ others : Int → Int, StrictMono others ∧
      (∀ handle < right.next, others handle = renumber handle) ∧
      (transcript acts left).filter (fun turn => turn.1.concerns date) =
        (transcript (acts.filter (·.concerns date)) right).map fun turn =>
          (turn.1, turn.2.renumbered others) := by
  induction acts generalizing renumber left right with
  | nil => exact ⟨renumber, beside.mono, fun _ _ => rfl, rfl⟩
  | cons act acts ih =>
    obtain ⟨isConfined, confined⟩ := List.forall_mem_cons.mp confined
    by_cases concerned : act.concerns date = true
    · obtain ⟨answer, after⟩ := beside.together isConfined concerned
      obtain ⟨others, mono, same, rest⟩ := ih confined after
      obtain ⟨view, shown⟩ := beside.shownRight
      -- The handles in this answer are given out now, so no later act gives them other numbers.
      have known : (act.run right).1.renumbered others = (act.run right).1.renumbered renumber :=
        Outcome.renumbered_congr fun handle given => same handle (shown.handles_lt_next act given)
      refine ⟨others, mono, fun handle below =>
        same handle (below.trans_le (shown.next_le_run act)), ?_⟩
      simp only [transcript, List.filter_cons, concerned, ↓reduceIte, List.map_cons, rest, answer, known]
    · -- The right-hand side stands still, only the numbers it has yet to give out are raised.
      obtain ⟨raised, agrees, after⟩ := beside.elsewhere isConfined concerned
      obtain ⟨others, mono, same, rest⟩ := ih confined after
      refine ⟨others, mono, fun handle below =>
        (same handle below).trans (agrees handle below), ?_⟩
      simp only [transcript, List.filter_cons, concerned, Bool.false_eq_true, ↓reduceIte, rest]

/-- Leaving out the acts on other dates changes no answer to those that remain, but for a
renumbering of the events: it keeps their order and the numbers already given out. -/
theorem filter_transcript {session : Session} (reachable : session.Reachable)
    (calm : session.faults = []) (date : Date) {acts : List Act}
    (confined : ∀ act ∈ acts, act.IsConfined) :
    ∃ renumber : Int → Int, StrictMono renumber ∧
      (∀ handle < session.next, renumber handle = handle) ∧
      (transcript acts session).filter (fun turn => turn.1.concerns date) =
        (transcript (acts.filter (·.concerns date)) session).map fun turn =>
          (turn.1, turn.2.renumbered renumber) := by
  obtain ⟨view, shown⟩ := reachable.shows calm
  exact filter_transcript_beside confined (Beside.refl shown)

/-- Two dates by turns: events and markers of both, a time without permission and a request. -/
def turns : List Act :=
  [.common (.addEvent lastPlain "会議"), .common (.apply monday "短縮A時程" none),
    .inMemory (.permission false), .common (.createMarker lastPlain "短縮B時程"),
    .inMemory (.permission true),
    .common (.http ⟨"GET", ⟨"/schedule/9999-12-31".toList, []⟩, none, []⟩),
    .common (.remove lastPlain), .common (.events monday), .common (.findMarker monday)]

theorem filter_transcript_turns :
    emptyMemory.Reachable ∧ emptyMemory.faults = [] ∧ (∀ act ∈ turns, act.IsConfined) ∧
      ∃ renumber : Int → Int, StrictMono renumber ∧
        (∀ handle < emptyMemory.next, renumber handle = handle) ∧
        (transcript turns emptyMemory).filter (fun turn => turn.1.concerns monday) =
          (transcript (turns.filter (·.concerns monday)) emptyMemory).map fun turn =>
            (turn.1, turn.2.renumbered renumber) := by
  have confined : ∀ act ∈ turns, act.IsConfined := by
    decide
  exact ⟨reachable_emptyMemory, rfl, confined,
    filter_transcript reachable_emptyMemory rfl monday confined⟩

end Session
end SchoolWeek
