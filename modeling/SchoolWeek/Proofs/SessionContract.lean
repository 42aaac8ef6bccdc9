import Mathlib
import SchoolWeek.Proofs.EngineContract
import SchoolWeek.Proofs.Reachable

/-! What the steps of a session give and leave while no fault is laid on its backend,
said of the view that the session shows. -/
namespace SchoolWeek

/-- Wrapping the result of an operation up as an outcome. -/
theorem Gives.of {σ α : Type} {shows : σ → View → Prop} {ran : α × σ} {expected : α × View}
    (gives : Gives shows ran expected) (wrap : α → Outcome) :
    Gives shows (Outcome.of wrap ran) (wrap expected.1, expected.2) :=
  ⟨congrArg wrap gives.1, gives.2⟩

namespace Session.Shows

variable {session : Session} {view : View}

theorem record (shown : session.Shows view) (date : Date) :
    Gives Session.Shows (session.run (.record date)) (.record (view.recordOn date), view) :=
  shown.run fun shown => (Backend.Lawful.record date shown).of _

theorem fetch (shown : session.Shows view) (day : Weekday) :
    Gives Session.Shows (session.run (.fetch day)) (.entries (view.classesOn day), view) :=
  shown.run fun shown => (Backend.Lawful.fetch day shown).of _

theorem clear (shown : session.Shows view) (date : Date) :
    Gives Session.Shows (session.run (.clear date))
      (.flag (view.recordOn date).isSome, view.withRecord date none) :=
  shown.run fun shown => (Backend.Lawful.clear date shown).of _

theorem findMarker (shown : session.Shows view) (date : Date) :
    Gives Session.Shows (session.run (.findMarker date))
      (Outcome.ofCalendar .marker (view.findMarker date), view) :=
  shown.run fun shown => (Backend.Lawful.findMarker date shown).of _

theorem events (shown : session.Shows view) (date : Date) :
    Gives Session.Shows (session.run (.events date)) (.events (view.eventsOn date), view) :=
  shown.run fun shown => (EventBook.Lawful.eventsOn date shown).of _

theorem remapsFor (shown : session.Shows view) (date : Date) :
    Gives Session.Shows (session.run (.remapsFor date))
      (.remaps (view.remapsFor date).1, (view.remapsFor date).2) :=
  shown.run fun shown => (Engine.remapsFor_gives date shown).of _

theorem effective (shown : session.Shows view) (date : Date) :
    Gives Session.Shows (session.run (.effective date))
      (.slots (view.effectiveSchedule date).1, (view.effectiveSchedule date).2) :=
  shown.run fun shown => (Engine.effectiveSchedule_gives date shown).of _

theorem effectiveSorted (shown : session.Shows view) (date : Date) :
    Gives Session.Shows (session.run (.effectiveSorted date))
      (.slots (Slot.sortByPeriod (view.effectiveSchedule date).1),
        (view.effectiveSchedule date).2) :=
  shown.run fun shown => (Engine.effectiveSchedule_gives date shown).of _

theorem normal (shown : session.Shows view) (date : Date) :
    Gives Session.Shows (session.run (.normal date)) (.slots (view.normalSchedule date), view) :=
  shown.run fun shown => (Engine.normalSchedule_gives date shown).of _

theorem remove (shown : session.Shows view) (date : Date) :
    Gives Session.Shows (session.run (.remove date))
      (Outcome.ofApply (view.remove date).1, (view.remove date).2) :=
  shown.run fun shown => (Engine.remove_gives date shown).of _

theorem apply (shown : session.Shows view) (date : Date) (patternName : String)
    (custom? : Option String) :
    ∃ handle, handle ∉ view.handles ∧
      Gives Session.Shows (session.run (.apply date patternName custom?))
        (Outcome.ofApply (view.applyOn handle date patternName date.weekday custom?).1,
          (view.applyOn handle date patternName date.weekday custom?).2) :=
  shown.run_some fun shown =>
    have ⟨handle, fresh, applied⟩ :=
      Engine.applyOn_gives date patternName date.weekday custom? shown
    ⟨handle, fresh, applied.of _⟩

end Session.Shows
end SchoolWeek
