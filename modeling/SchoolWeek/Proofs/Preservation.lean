import Mathlib
import SchoolWeek.Proofs.Lockstep

/-! What every operation of a backend keeps, every step of a session keeps: the engine
and the service change a backend by its operations only, and a fault laid on an
operation keeps it from the backend or lets it through, but never does anything else
to it. -/
namespace SchoolWeek

/-- Every operation leaves a state with the property when it is given one. -/
structure Backend.Keeps {σ : Type} [Backend σ] (holds : σ → Prop) : Prop where
  fetch {state : σ} (day : Weekday) : holds state → holds (Backend.fetch day state).2
  entries {state : σ} : holds state → holds (Backend.entries state).2
  replaceEntries {state : σ} (entries : List Entry) :
    holds state → holds (Backend.replaceEntries entries state).2
  replace {state : σ} (date : Date) (remaps : List Remap) (patternName : String) :
    holds state → holds (Backend.replace date remaps patternName state).2
  rows {state : σ} (date : Date) : holds state → holds (Backend.rows date state).2
  clear {state : σ} (date : Date) : holds state → holds (Backend.clear date state).2
  record {state : σ} (date : Date) : holds state → holds (Backend.record date state).2
  specialDates {state : σ} (first last : Date) :
    holds state → holds (Backend.specialDates first last state).2
  findMarker {state : σ} (date : Date) : holds state → holds (Backend.findMarker date state).2
  createMarker {state : σ} (date : Date) (patternName : String) :
    holds state → holds (Backend.createMarker date patternName state).2
  deleteMarker {state : σ} (handle : Int) :
    holds state → holds (Backend.deleteMarker handle state).2

structure EventBook.Keeps {σ : Type} [EventBook σ] (holds : σ → Prop) : Prop where
  addEvent {state : σ} (date : Date) (title : String) :
    holds state → holds (EventBook.addEvent date title state).2
  eventsOn {state : σ} (date : Date) : holds state → holds (EventBook.eventsOn date state).2

/-- A backend next to itself, with the property. -/
def Alone {σ : Type} (holds : σ → Prop) (left right : σ) : Prop := left = right ∧ holds left

theorem Alone.ran {σ α : Type} {holds : σ → Prop} {rename : α → α} {ran : α × σ}
    (still : rename ran.1 = ran.1) (after : holds ran.2) : Agree (Alone holds) rename ran ran :=
  ⟨still.symm, rfl, after⟩

theorem Marker.map_renumbered_id (found : Except CalendarError (Option Marker)) :
    found.map (Option.map (renumbered id)) = found := by
  match found with
  | .error error => rfl
  | .ok none => rfl
  | .ok (some marker) => rfl

theorem Event.map_renumbered_id (listed : Except StoreError (List Event)) :
    listed.map (List.map (renumbered id)) = listed := by
  cases listed with
  | error error => rfl
  | ok events => exact congrArg Except.ok (List.map_id events)

namespace Backend.Keeps

variable {σ : Type} [Backend σ] {holds : σ → Prop} {state : σ}

/-- A backend is in lockstep with itself. -/
theorem alike (keeps : Keeps holds) : Alike Scope.everything id (Alone holds) where
  fetch day := by
    rintro ⟨rfl, before⟩
    exact Alone.ran rfl (keeps.fetch day before)
  entries {_ _} := by
    rintro ⟨rfl, before⟩
    exact Alone.ran rfl (keeps.entries before)
  replaceEntries list _ := by
    rintro ⟨rfl, before⟩
    exact Alone.ran rfl (keeps.replaceEntries list before)
  replace {_ _ date} remaps patternName _ := by
    rintro ⟨rfl, before⟩
    exact Alone.ran rfl (keeps.replace date remaps patternName before)
  rows {_ _ date} _ := by
    rintro ⟨rfl, before⟩
    exact Alone.ran rfl (keeps.rows date before)
  clear {_ _ date} _ := by
    rintro ⟨rfl, before⟩
    exact Alone.ran rfl (keeps.clear date before)
  record {_ _ date} _ := by
    rintro ⟨rfl, before⟩
    exact Alone.ran rfl (keeps.record date before)
  specialDates {_ _ first last} _ := by
    rintro ⟨rfl, before⟩
    exact Alone.ran rfl (keeps.specialDates first last before)
  findMarker {_ _ date} _ := by
    rintro ⟨rfl, before⟩
    exact Alone.ran (Marker.map_renumbered_id _) (keeps.findMarker date before)
  createMarker {_ _ date} patternName _ := by
    rintro ⟨rfl, before⟩
    exact Alone.ran (congrFun Except.map_id _) (keeps.createMarker date patternName before)
  deleteMarker {_ _ handle} _ := by
    rintro ⟨rfl, before⟩
    exact Alone.ran rfl (keeps.deleteMarker handle before)
  deleteFound {state _ after date marker} _ := by
    rintro ⟨rfl, before⟩ found
    have between := keeps.findMarker date before
    rw [found] at between ⊢
    exact Alone.ran rfl (keeps.deleteMarker marker.handle between)

omit [Backend σ] in
/-- A noted operation runs on the backend below or not at all. -/
theorem noted {ε α : Type} {operation : Operation σ ε α} {traced : Traced σ} (call : Call)
    (failed : Fault → Except ε α) (before : holds traced.base)
    (after : holds (operation traced.base).2) :
    holds (Traced.noted call failed operation traced).2.base := by
  unfold Traced.noted Traced.enter
  split
  · rename_i fault struck ran
    split at ran <;> cases ran
    exact before
  · rename_i struck ran
    split at ran <;> cases ran
    exact after

theorem traced (keeps : Keeps holds) :
    Keeps fun traced : Traced σ => holds traced.base where
  fetch day before := noted _ _ before (keeps.fetch day before)
  entries before := noted _ _ before (keeps.entries before)
  replaceEntries entries before := noted _ _ before (keeps.replaceEntries entries before)
  replace date remaps patternName before :=
    noted _ _ before (keeps.replace date remaps patternName before)
  rows date before := noted _ _ before (keeps.rows date before)
  clear date before := noted _ _ before (keeps.clear date before)
  record date before := noted _ _ before (keeps.record date before)
  specialDates first last before := noted _ _ before (keeps.specialDates first last before)
  findMarker date before := noted _ _ before (keeps.findMarker date before)
  createMarker date patternName before :=
    noted _ _ before (keeps.createMarker date patternName before)
  deleteMarker handle before := noted _ _ before (keeps.deleteMarker handle before)

end Backend.Keeps

theorem EventBook.Keeps.alike {σ : Type} [EventBook σ] {holds : σ → Prop} (keeps : Keeps holds) :
    Alike Scope.everything id (Alone fun traced : Traced σ => holds traced.base) where
  addEvent {_ _ date} title _ := by
    rintro ⟨rfl, before⟩
    exact Alone.ran (congrFun Except.map_id _) (keeps.addEvent date title before)
  eventsOn {_ _ date} _ := by
    rintro ⟨rfl, before⟩
    exact Alone.ran (Event.map_renumbered_id _) (keeps.eventsOn date before)

/-- What the operations of a backend keep is kept by every step, whatever faults strike. -/
theorem Step.run_keeps {σ : Type} [Backend σ] [EventBook σ] {holds : σ → Prop}
    {state : Traced σ} (keeps : Backend.Keeps holds) (books : EventBook.Keeps holds) (step : Step)
    (before : holds state.base) : holds (step.run state).2.base := by
  have kept (noCalls : step ≠ .takeCalls) (noFault : ∀ fault, step ≠ .setFault fault) :
      holds (step.run state).2.base := by
    have within : step.Within Scope.everything :=
      step.within_of_dates (fun _ _ => trivial) (fun _ => trivial) (fun _ _ _ => trivial)
        (fun _ _ => trivial) noCalls noFault
    exact (step.run_alike keeps.traced.alike books.alike within ⟨rfl, before⟩).2.2
  cases step with
  | takeCalls => exact before
  | setFault fault => exact before
  | _ => exact kept nofun fun fault => nofun

end SchoolWeek
