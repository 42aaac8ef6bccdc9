import Mathlib
import SchoolWeek.Proofs.Agreement
import SchoolWeek.Proofs.SpecialDates

/-! The two kinds of session answer alike. A session in memory and one over tables that
were opened with the same lead and the same timetable give the same answer to every step,
however many steps there are, handles and noted calls included, as long as the steps name
dates with plain years only: listings by text and by calendar are the same there. -/
namespace SchoolWeek

open Backend.Lawful (Shows)

/-- Lists in the order of the calendar with the same dates are the same. -/
theorem Date.eq_of_ascending {left right : List Date} (leftAscends : left.Pairwise Date.Before)
    (rightAscends : right.Pairwise Date.Before) (mem_iff : ∀ date, date ∈ left ↔ date ∈ right) :
    left = right := by
  have distinct {dates : List Date} (ascending : dates.Pairwise Date.Before) : dates.Nodup := by
    refine ascending.imp fun {early late} before same => ?_
    rw [same] at before
    exact late.not_before_self before
  refine List.Perm.eq_of_pairwise ?_ leftAscends rightAscends
    ((List.perm_ext_iff_of_nodup (distinct leftAscends) (distinct rightAscends)).mpr mem_iff)
  exact fun early late _ _ before after => (before.asymm after).elim

/-- Dates are named with plain years only, all else may be asked for. -/
def Scope.plain : Scope where
  timetable := True
  date := Date.HasPlainYear
  range first last := first.HasPlainYear ∧ last.HasPlainYear
  handle _ := True

/-- The memory and the tables show the same, down to the numbers of the events. -/
def Same (left : Memory) (right : TableStore) : Prop :=
  AreAbreast (fun _ => True) id left right

/-- The last day of the calendar. -/
def Date.last : Date := ⟨lastYear, 12, 31, by decide⟩

/-- A day follows every other date: the next of the month, or else the first of the next
month, or else that of the next year. -/
theorem Date.next?_isSome_of_ne {date : Date} (notLast : date ≠ last) : date.next?.isSome := by
  obtain ⟨low, high, firstMonth, lastMonth, firstDay, lastDay⟩ := date.real
  have long (year : Int) (month : Nat) : 1 ≤ daysInMonth year month := by
    unfold daysInMonth
    split_ifs <;> omega
  unfold next?
  split_ifs with inMonth inYear
  · have next : Exists date.year date.month (date.day + 1) :=
      ⟨low, high, firstMonth, lastMonth, by omega, inMonth⟩
    rw [of?, dif_pos next]
    rfl
  · have next : Exists date.year (date.month + 1) 1 :=
      ⟨low, high, by omega, by omega, le_rfl, long _ _⟩
    rw [of?, dif_pos next]
    rfl
  · have december : date.month = 12 := by omega
    have days : daysInMonth date.year 12 = 31 := rfl
    rw [december, days] at inMonth lastDay
    have early : date.year ≠ lastYear := fun same =>
      notLast (ext_fields same december (by show date.day = 31; omega))
    have next : Exists (date.year + 1) 1 1 :=
      ⟨by omega, by omega, le_rfl, by omega, le_rfl, long _ _⟩
    rw [of?, dif_pos next]
    rfl

theorem Date.next?_isSome {date : Date} (early : date.year < lastYear) : date.next?.isSome :=
  next?_isSome_of_ne fun same => early.ne (congrArg Date.year same)

theorem Date.HasPlainYear.followed {date : Date} (plain : date.HasPlainYear) :
    date.next?.isSome :=
  next?_isSome (lt_of_le_of_lt plain.2 (by decide))

namespace Same

variable {left : Memory} {right : TableStore}

/-- The lists of special dates by the calendar and by texts are the same between plain years. -/
theorem specialDates {first last : Date} (plain : first.HasPlainYear ∧ last.HasPlainYear)
    (same : Same left right) :
    Agree Same id (Backend.specialDates first last left) (Backend.specialDates first last right) := by
  obtain ⟨view, other, abreast⟩ := same
  have shownLeft : (Session.memory (.ofBackend left)).Shows view := ⟨rfl, abreast.shownLeft⟩
  have shownRight : (Session.tables false (.ofBackend right)).Shows other :=
    ⟨rfl, abreast.shownRight⟩
  obtain ⟨dates, answered, lists⟩ := shownLeft.specialDates first last
  obtain ⟨others, answeredToo, listsToo⟩ := shownRight.specialDates first last
  have listed := lists.mpr fun _ => Session.textsFit_of_plain plain.1 plain.2
  have listedToo := listsToo.mpr fun _ => Session.textsFit_of_plain plain.1 plain.2
  have equal : dates = others := by
    refine Date.eq_of_ascending listed.ascending listedToo.ascending fun date => ?_
    rw [listed.mem_iff, listedToo.mem_iff, shownLeft.hasRecord_iff, shownRight.hasRecord_iff,
      abreast.agree.recordOn trivial]
  obtain ⟨given, givesLeft⟩ := Backend.Lawful.specialDates first last abreast.shownLeft
  obtain ⟨givenToo, givesRight⟩ := Backend.Lawful.specialDates first last abreast.shownRight
  have given_eq : Outcome.ofStore .dates (Backend.specialDates first last left).1 = .dates dates :=
    answered
  have givenToo_eq :
      Outcome.ofStore .dates (Backend.specialDates first last right).1 = .dates others :=
    answeredToo
  rw [givesLeft.1] at given_eq
  rw [givesRight.1] at givenToo_eq
  refine abreast.read givesLeft givesRight ?_ (Numbered.specialDates first last left)
    (Numbered.specialDates first last right)
  rw [Outcome.dates.inj given_eq, Outcome.dates.inj givenToo_eq, equal]
  rfl

/-- Every event is there on both sides under the same handle, or on neither. -/
theorem deleteMarker (handle : Int) (same : Same left right) :
    Agree Same id (Backend.deleteMarker handle left) (Backend.deleteMarker handle right) := by
  obtain ⟨view, other, abreast⟩ := same
  have deletes : (view.deleteMarker handle).1 = (other.deleteMarker handle).1 := by
    have present : handle ∈ view.handles ↔ handle ∈ other.handles :=
      abreast.agree.mem_handles Function.injective_id handle
    rw [View.deleteMarker, View.deleteMarker, abreast.agree.permitted]
    simp only [present]
    split_ifs <;> rfl
  exact abreast.moved (Backend.Lawful.deleteMarker handle abreast.shownLeft)
    (Backend.Lawful.deleteMarker handle abreast.shownRight) deletes
    (abreast.agree.deleteMarker Function.injective_id handle) le_rfl
    ((Numbered.deleteMarker handle left).trans (add_zero _).symm)
    ((Numbered.deleteMarker handle right).trans (add_zero _).symm)

theorem alike : Backend.Alike Scope.plain id Same :=
  AreAbreast.alike (fun _ => trivial) (fun plain => (if_pos (plain.followed)).symm)
    (fun plain same => specialDates plain same) (fun _ same => deleteMarker _ same)

theorem books : EventBook.Alike Scope.plain id Same :=
  AreAbreast.books (fun _ => trivial) (fun plain => (if_pos (plain.followed)).symm)

end Same

/-- A step that names plain years answers alike and keeps the sessions in step. -/
theorem Step.run_inStep {left : Traced Memory} {right : Traced TableStore} {step : Step}
    (plain : ∀ date ∈ step.dates, date.HasPlainYear) (inStep : Traced.InStep Same left right) :
    Agree (Traced.InStep Same) id (step.run left) (step.run right) := by
  have asked (noCalls : step ≠ .takeCalls) (noFault : ∀ fault, step ≠ .setFault fault) :
      Agree (Traced.InStep Same) id (step.run left) (step.run right) := by
    have within : step.Within Scope.plain := by
      refine step.within_of_dates plain (fun _ => trivial) (fun first last named => ?_)
        (fun _ _ => trivial) noCalls noFault
      rw [named] at plain
      exact ⟨plain first (by simp), plain last (by simp)⟩
    have ran := Step.run_alike (Same.alike.traced fun _ => trivial) Same.books.traced within inStep
    exact ⟨ran.1.trans (Outcome.renumbered_id _), ran.2⟩
  -- The list of calls and the faults are none of the backend's business, so what is said of
  -- its operations does not cover the two steps about them.
  cases step with
  | takeCalls => exact ⟨congrArg Outcome.calls inStep.calls, inStep.takeCalls.2⟩
  | setFault fault => exact ⟨rfl, inStep.setFault fault⟩
  | _ => exact asked nofun fun fault => nofun

namespace Session

/-- The answers to the steps, one after the other. -/
def answers : List Step → Session → List Outcome
  | [], _ => []
  | step :: steps, session => (session.run step).1 :: answers steps (session.run step).2

/-- By induction on the steps: each one answers alike and keeps the sessions in step. -/
theorem answers_eq {left : Traced Memory} {right : Traced TableStore} (inFile : Bool)
    {steps : List Step} (plain : ∀ step ∈ steps, ∀ date ∈ step.dates, date.HasPlainYear)
    (inStep : Traced.InStep Same left right) :
    answers steps (.memory left) = answers steps (.tables inFile right) := by
  induction steps generalizing left right with
  | nil => rfl
  | cons step steps ih =>
    have ran := Step.run_inStep (plain step List.mem_cons_self) inStep
    exact congrArg₂ List.cons ran.1
      (ih (fun step member => plain step (List.mem_cons_of_mem _ member)) ran.2)

/-- Nothing is the same in memory and in tables. -/
theorem same_empty (lead : String) : Same (.empty lead) (.empty lead) := by
  refine ⟨(Memory.empty lead).view, ⟨[], fun _ => none, [], lead, true⟩, ?_, ?_, ?_, strictMono_id, ?_⟩
  · exact ⟨⟨.of_no_events rfl, fun _ member => absurd member List.not_mem_nil, .nil⟩, rfl⟩
  · exact ⟨[], rfl, Tables.holds_empty, .of_no_events rfl, rfl, rfl, rfl, rfl⟩
  · exact ⟨rfl, rfl, rfl, fun _ => rfl, fun _ => rfl⟩
  · exact fun {handle} _ => (add_zero handle).symm

/-- Opened with the same lead and the same entries, both kinds of session refuse the entries
or both give the same answers to whatever steps follow. -/
theorem answers_openMemory (lead : String) (entries : List Entry) (inFile : Bool)
    {steps : List Step} (plain : ∀ step ∈ steps, ∀ date ∈ step.dates, date.HasPlainYear) :
    (openMemory lead entries).map (answers steps) =
      (openTables inFile lead entries).map (answers steps) := by
  obtain ⟨result, left, right, ranLeft, ranRight, same⟩ :=
    (Same.alike.replaceEntries entries trivial (same_empty lead)).same
  have inMemory : (Memory.empty lead).replaceEntries entries = (result, left) := ranLeft
  have inTables : TableStore.replaceEntries entries (.empty lead) = (result, right) := ranRight
  rw [openMemory, openTables, inMemory, inTables]
  cases result with
  | error error => rfl
  | ok filled => exact congrArg Except.ok (answers_eq inFile plain ⟨same, rfl, rfl⟩)

/-- Steps of many kinds, with events that come and go and a fault. -/
def rehearsal : List Step :=
  [.addEvent monday "会議", .apply monday "短縮A時程" none, .findMarker monday, .deleteMarker 2,
    .createMarker monday "月1→火1", .setFault ⟨.findMarker, 1, .other, "offline"⟩, .remapsFor monday,
    .effectiveSorted monday, .specialDates monday monday, .remove monday, .events monday, .takeCalls]

def lessons : List Entry := [⟨.monday, 1, "数学", none, none⟩, ⟨.tuesday, 2, "音楽", none, none⟩]

theorem answers_openMemory_rehearsal :
    (∀ step ∈ rehearsal, ∀ date ∈ step.dates, date.HasPlainYear) ∧
      (openMemory Marker.defaultLead lessons).isOk = true ∧
      (openMemory Marker.defaultLead lessons).map (answers rehearsal) =
        (openTables true Marker.defaultLead lessons).map (answers rehearsal) := by
  have plain : ∀ step ∈ rehearsal, ∀ date ∈ step.dates, date.HasPlainYear := by
    decide
  exact ⟨plain, rfl, answers_openMemory Marker.defaultLead lessons true plain⟩

end Session
end SchoolWeek
