import Mathlib
import SchoolWeek.Proofs.Grouping
import SchoolWeek.Proofs.PlanPairs
import SchoolWeek.Proofs.SessionContract
import SchoolWeek.Proofs.SlotOrder

/-! Looking at a date twice. The first look may store what a marker asks for, and the
second then goes by the stored rows, which are gathered by their pairs of days. Both looks
find the same classes in the order of the periods. Classes of one period may come in
another order the second time, if the plan names a pair of days again after others. -/
namespace SchoolWeek

/-- Where the pair of days of a row stands among those of the rows. -/
def Row.rank (rows : List Row) (row : Row) : Nat := (Remap.dayPairs rows).idxOf row.days

/-- Of the rows that copy a class into one period, those of the pair of days that is named
first come first. -/
def Row.InOrder (isTaught : Row → Bool) (rows : List Row) : Prop :=
  (rows.filter isTaught).Pairwise fun early late =>
    early.targetPeriod = late.targetPeriod → early.rank rows ≤ late.rank rows

theorem Weekday.glyph_injective : Function.Injective glyph := fun left right same => by
  have read := ofGlyph?_glyph left
  rw [same, ofGlyph?_glyph] at read
  exact (Option.some.inj read).symm

theorem Period.digit_injective : Function.Injective digit := fun left right same => by
  have read := ofDigit?_digit left
  rw [same, ofDigit?_digit] at read
  exact (Option.some.inj read).symm

theorem Slot.originText_inj {day other : Weekday} {period another : Period}
    (same : originText day period = originText other another) : day = other ∧ period = another := by
  have glyphs := congrArg String.toList same
  rw [originText, originText, String.toList_ofList, String.toList_ofList] at glyphs
  simp only [List.cons.injEq, true_and, and_true] at glyphs
  exact ⟨Weekday.glyph_injective glyphs.1, Period.digit_injective glyphs.2⟩

/-- Lists whose members all give something different can be told apart by what they give. -/
theorem eq_of_filterMap_eq {α β : Type} {give : α → Option β} {left right : List α}
    (leftGives : ∀ item ∈ left, (give item).isSome) (rightGives : ∀ item ∈ right, (give item).isSome)
    (injective : ∀ item ∈ left, ∀ other ∈ right, give item = give other → item = other)
    (same : left.filterMap give = right.filterMap give) : left = right := by
  induction left generalizing right with
  | nil =>
    cases right with
    | nil => rfl
    | cons other others =>
      obtain ⟨value, gives⟩ := Option.isSome_iff_exists.mp (rightGives other List.mem_cons_self)
      rw [List.filterMap_nil, List.filterMap_cons_some gives] at same
      cases same
  | cons item rest ih =>
    obtain ⟨value, gives⟩ := Option.isSome_iff_exists.mp (leftGives item List.mem_cons_self)
    rw [List.filterMap_cons_some gives] at same
    cases right with
    | nil => cases same
    | cons other others =>
      obtain ⟨another, otherGives⟩ :=
        Option.isSome_iff_exists.mp (rightGives other List.mem_cons_self)
      rw [List.filterMap_cons_some otherGives] at same
      obtain ⟨sameValue, sameRest⟩ := List.cons.inj same
      have first := injective item List.mem_cons_self other List.mem_cons_self
        (by rw [gives, otherGives, sameValue])
      rw [first, ih (fun item member => leftGives item (List.mem_cons_of_mem _ member))
        (fun other member => rightGives other (List.mem_cons_of_mem _ member))
        (fun item member other isOther => injective item (List.mem_cons_of_mem _ member) other
          (List.mem_cons_of_mem _ isOther)) sameRest]

namespace View

/-- The source period of the row has a class. -/
def isTaught (view : View) (row : Row) : Bool :=
  (view.classesOn row.source).any (·.period == row.sourcePeriod.number)

/-- The class that a row copies. -/
def slotOf (view : View) (row : Row) : Option Slot :=
  ((view.classesOn row.source).find? (·.period == row.sourcePeriod.number)).map
    (Slot.copied ⟨row.source, row.target, []⟩ row.sourcePeriod row.targetPeriod)

theorem isSome_slotOf (view : View) (row : Row) : (view.slotOf row).isSome = view.isTaught row := by
  rw [slotOf, Option.isSome_map, isTaught, List.isSome_find?]

theorem period_of_slotOf {view : View} {row : Row} {slot : Slot} (copied : view.slotOf row = some slot) :
    slot.period = row.targetPeriod.number := by
  obtain ⟨entry, _, rfl⟩ := Option.map_eq_some_iff.mp copied
  rfl

/-- A copied class tells where it comes from and where it goes. -/
theorem slotOf_inj {view : View} {row other : Row} {slot : Slot}
    (sameName : row.patternName = other.patternName) (copied : view.slotOf row = some slot)
    (otherCopied : view.slotOf other = some slot) : row = other := by
  obtain ⟨entry, _, made⟩ := Option.map_eq_some_iff.mp copied
  obtain ⟨another, _, otherMade⟩ := Option.map_eq_some_iff.mp otherCopied
  have target : row.target = other.target :=
    congrArg (·.day) (made.trans otherMade.symm)
  have targetPeriod : row.targetPeriod = other.targetPeriod :=
    Period.ext_number (congrArg (·.period) (made.trans otherMade.symm))
  have origin : Slot.originText row.source row.sourcePeriod =
      Slot.originText other.source other.sourcePeriod :=
    Option.some.inj (congrArg (·.origin?) (made.trans otherMade.symm))
  obtain ⟨source, sourcePeriod⟩ := Slot.originText_inj origin
  cases row
  cases other
  simp_all only

/-- The classes that remaps copy are those that their rows copy. -/
theorem merge_eq (view : View) (remaps : List Remap) (patternName : String) :
    view.merge remaps = (Remap.flatten remaps patternName).filterMap view.slotOf := by
  rw [merge, Remap.flatten, List.filterMap_flatMap]
  refine List.flatMap_congr fun remap _ => ?_
  rw [Remap.rows, List.filterMap_map]
  rfl

/-- The classes copied into one period, row by row. -/
theorem filter_slots (view : View) (rows : List Row) (number : Nat) :
    (rows.filterMap view.slotOf).filter (·.period == number) =
      (rows.filter fun row =>
        view.isTaught row && row.targetPeriod.number == number).filterMap view.slotOf := by
  rw [List.filter_filterMap, List.filterMap_filter]
  refine List.filterMap_congr fun row _ => ?_
  rw [← isSome_slotOf]
  cases copied : view.slotOf row with
  | none => rfl
  | some slot => simp [Option.filter, period_of_slotOf copied]

/-- The rows of one period stay in order when all rows are gathered if they are in order. -/
theorem inOrder_iff (isTaught : Row → Bool) (rows : List Row) :
    Row.InOrder isTaught rows ↔ ∀ number,
      (rows.filter fun row => isTaught row && row.targetPeriod.number == number).Pairwise
        fun early late => early.rank rows ≤ late.rank rows := by
  have split (number : Nat) :
      (rows.filter fun row => isTaught row && row.targetPeriod.number == number) =
        (rows.filter isTaught).filter (·.targetPeriod.number == number) := by
    rw [List.filter_filter]
    exact List.filter_congr fun row _ => Bool.and_comm _ _
  simp only [split, Row.InOrder]
  constructor
  · refine fun ordered number => List.pairwise_filter.mpr ?_
    refine ordered.imp fun {early late} least isEarly isLate => least ?_
    exact Period.ext_number ((beq_iff_eq.mp isEarly).trans (beq_iff_eq.mp isLate).symm)
  · intro ordered
    refine List.pairwise_iff_forall_sublist.mpr fun {early late} both same => ?_
    have least := List.pairwise_filter.mp (ordered early.targetPeriod.number)
    exact List.pairwise_iff_forall_sublist.mp least both (beq_self_eq_true _) (by simp [same])

/-- Gathering the rows changes the schedule exactly if the rows are not in order. -/
theorem sortByPeriod_merge_regroup_iff (view : View) {rows : List Row} {patternName : String}
    (named : ∀ row ∈ rows, row.patternName = patternName) :
    Slot.sortByPeriod (view.merge (Remap.regroup rows)) =
        Slot.sortByPeriod (rows.filterMap view.slotOf) ↔ Row.InOrder view.isTaught rows := by
  rw [view.merge_eq (Remap.regroup rows) patternName, Remap.flatten_regroup named,
    Slot.sortByPeriod_eq_iff, inOrder_iff]
  refine forall_congr' fun number => ?_
  rw [filter_slots, filter_slots, gatherBy_filter]
  have covered : ∀ row ∈ rows.filter fun row =>
      view.isTaught row && row.targetPeriod.number == number, row.days ∈ Remap.dayPairs rows :=
    fun row member => Remap.mem_dayPairs (List.mem_filter.mp member).1
  have distinct := Remap.dayPairs_nodup rows
  have perm := gatherBy_perm distinct covered
  refine Iff.trans ⟨fun same => ?_, congrArg _⟩ (gatherBy_eq_self_iff distinct covered)
  have gives : ∀ row ∈ rows.filter fun row =>
      view.isTaught row && row.targetPeriod.number == number, (view.slotOf row).isSome := by
    intro row member
    rw [isSome_slotOf]
    exact (Bool.and_eq_true_iff.mp (List.mem_filter.mp member).2).1
  refine eq_of_filterMap_eq (fun row member => gives row (perm.mem_iff.mp member)) gives ?_ same
  intro row member other isOther sameSlot
  obtain ⟨slot, copied⟩ := Option.isSome_iff_exists.mp (gives other isOther)
  have sameName : row.patternName = other.patternName :=
    (named row (List.mem_filter.mp (perm.mem_iff.mp member)).1).trans
      (named other (List.mem_filter.mp isOther).1).symm
  exact slotOf_inj sameName (sameSlot.trans copied) copied

theorem merge_regroup_perm (view : View) {rows : List Row} {patternName : String}
    (named : ∀ row ∈ rows, row.patternName = patternName) :
    (view.merge (Remap.regroup rows)).Perm (rows.filterMap view.slotOf) := by
  rw [view.merge_eq (Remap.regroup rows) patternName, Remap.flatten_regroup named]
  exact (gatherBy_perm (Remap.dayPairs_nodup rows) fun row => Remap.mem_dayPairs).filterMap _

end View

/-- The rows that are stored for a marker on a date of this weekday. -/
def Marker.rows (marker : Marker) (day : Weekday) : List Row :=
  Remap.flatten (Plan.ofPatternName marker.patternName.toList day) marker.patternName

namespace View

/-- With a plan or with its rows gathered again, it is the normal week or a merge. -/
theorem scheduleUnder_regroup (view : View) (date : Date) (marker : Marker) :
    let first := view.scheduleUnder date
      (Plan.ofPatternName marker.patternName.toList date.weekday)
    let second := view.scheduleUnder date (Remap.regroup (marker.rows date.weekday))
    second.Perm first ∧ (Slot.sortByPeriod second = Slot.sortByPeriod first ↔
      Row.InOrder view.isTaught (marker.rows date.weekday)) := by
  have named : ∀ row ∈ marker.rows date.weekday, row.patternName = marker.patternName :=
    fun _ member => Remap.patternName_of_mem_flatten member
  have empty_iff := Plan.flatten_eq_nil_iff marker.patternName.toList date.weekday
    marker.patternName
  by_cases none : Plan.ofPatternName marker.patternName.toList date.weekday = []
  · have noRows : marker.rows date.weekday = [] := empty_iff.mpr none
    rw [none, noRows]
    exact ⟨List.Perm.refl _, iff_of_true rfl List.Pairwise.nil⟩
  · have gathered : Remap.regroup (marker.rows date.weekday) ≠ [] := fun empty =>
      none (empty_iff.mp (Remap.regroup_eq_nil_iff.mp empty))
    rw [scheduleUnder, scheduleUnder, if_neg (by simpa using none), if_neg (by simpa using gathered),
      view.merge_eq _ marker.patternName]
    exact ⟨view.merge_regroup_perm named, view.sortByPeriod_merge_regroup_iff named⟩

theorem effectiveSchedule_of_settled {view : View} {date : Date} {remaps : List Remap}
    (settled : view.remapsFor date = (remaps, view)) :
    view.effectiveSchedule date = (view.scheduleUnder date remaps, view) := by
  rw [effectiveSchedule, settled]

/-- Two looks at a date find the same classes, and find them in the same order of periods
if and only if the rows stored by the first look are in order or it stores none. -/
theorem effectiveSchedule_again (view : View) (date : Date) :
    let first := view.effectiveSchedule date
    let second := first.2.effectiveSchedule date
    second.1.Perm first.1 ∧ (Slot.sortByPeriod second.1 = Slot.sortByPeriod first.1 ↔
      ∀ marker, view.recordOn date = none → view.marker? date = some marker →
        Row.InOrder view.isTaught (marker.rows date.weekday)) := by
  cases recorded : view.recordOn date with
  | some record =>
    have first := effectiveSchedule_of_settled (remapsFor_recorded recorded)
    rw [first]
    dsimp only
    rw [first]
    exact ⟨List.Perm.refl _, iff_of_true rfl fun _ missing => nomatch missing⟩
  | none =>
    cases marked : view.marker? date with
    | none =>
      have first := effectiveSchedule_of_settled (remapsFor_unmarked recorded marked)
      rw [first]
      dsimp only
      rw [first]
      exact ⟨List.Perm.refl _, iff_of_true rfl fun _ _ found => nomatch found⟩
    | some marker =>
      let after := (view.materialize date marker).2
      have first : view.effectiveSchedule date =
          (after.scheduleUnder date (view.materialize date marker).1, after) := by
        rw [effectiveSchedule, remapsFor, recorded, marked]
      have stored : after.recordOn date =
          some ⟨date, marker.patternName, marker.rows date.weekday⟩ :=
        withRecord_recordOn_self _ _ _
      obtain ⟨perm, same_iff⟩ := after.scheduleUnder_regroup date marker
      rw [first]
      dsimp only
      rw [effectiveSchedule_of_settled (remapsFor_recorded stored)]
      refine ⟨perm, same_iff.trans ⟨fun ordered _ _ found => ?_, fun ordered => ?_⟩⟩
      · cases found
        exact ordered
      · exact ordered marker rfl rfl

end View

namespace Session

/-- The classes of a weekday as the session lists them. -/
def classesOn (session : Session) (day : Weekday) : List Entry :=
  match (session.run (.fetch day)).1 with
  | .entries list => list
  | _ => []

/-- The source period of the row has a class. -/
def isTaught (session : Session) (row : Row) : Bool :=
  (session.classesOn row.source).any (·.period == row.sourcePeriod.number)

/-- If looking at the date stores what a marker asks for, the rows stored are in order. -/
def SettlesInOrder (session : Session) (date : Date) : Prop :=
  ∀ marker, (session.run (.record date)).1 = .record none →
    (session.run (.findMarker date)).1 = .marker (some marker) →
      Row.InOrder session.isTaught (marker.rows date.weekday)

theorem Shows.isTaught {session : Session} {view : View} (shown : session.Shows view) :
    session.isTaught = view.isTaught := by
  funext row
  rw [Session.isTaught, Session.classesOn, (shown.fetch row.source).1]
  rfl

theorem Shows.settlesInOrder_iff {session : Session} {view : View} (shown : session.Shows view)
    (date : Date) : session.SettlesInOrder date ↔
      ∀ marker, view.recordOn date = none → view.marker? date = some marker →
        Row.InOrder view.isTaught (marker.rows date.weekday) := by
  rw [SettlesInOrder, (shown.record date).1, (shown.findMarker date).1, shown.isTaught]
  refine forall_congr' fun marker => imp_congr ⟨Outcome.record.inj, congrArg _⟩ (imp_congr_left ?_)
  by_cases permitted : view.permitted = true
  · rw [View.findMarker_permitted permitted]
    exact ⟨Outcome.marker.inj, congrArg _⟩
  · obtain ⟨denied, unseen⟩ := View.findMarker_denied permitted date
    rw [denied, unseen]
    exact iff_of_false nofun nofun

theorem Shows.lookTwice {session : Session} {view : View} (shown : session.Shows view)
    (date : Date) :
    ∃ slots again after, session.run (.effectiveSorted date) = (.slots slots, after) ∧
      (after.run (.effectiveSorted date)).1 = .slots again ∧ again.Perm slots ∧
      (slots.Pairwise fun early late => early.period ≤ late.period) ∧
      (again.Pairwise fun early late => early.period ≤ late.period) ∧
      (again = slots ↔ session.SettlesInOrder date) := by
  obtain ⟨after, ran, left⟩ := (shown.effectiveSorted date).ran
  obtain ⟨perm, same_iff⟩ := view.effectiveSchedule_again date
  refine ⟨_, _, after, ran, (left.effectiveSorted date).1, ?_, Slot.sortByPeriod_sorted _,
    Slot.sortByPeriod_sorted _, ?_⟩
  · exact ((Slot.sortByPeriod_perm _).trans perm).trans (Slot.sortByPeriod_perm _).symm
  · rw [same_iff, shown.settlesInOrder_iff]

/-- Two looks at a date, with nothing between them, list the same classes by period. The
lists are the same to the order if and only if the first look stores nothing or stores
its rows in order. -/
theorem effectiveSorted_again {session : Session} (reachable : session.Reachable)
    (calm : session.faults = []) (date : Date) :
    ∃ slots again after, session.run (.effectiveSorted date) = (.slots slots, after) ∧
      (after.run (.effectiveSorted date)).1 = .slots again ∧ again.Perm slots ∧
      (slots.Pairwise fun early late => early.period ≤ late.period) ∧
      (again.Pairwise fun early late => early.period ≤ late.period) ∧
      (again = slots ↔ session.SettlesInOrder date) := by
  obtain ⟨view, shown⟩ := reachable.shows calm
  exact shown.lookTwice date

/-- A class on Monday, and a marker that names Monday and Tuesday again after Wednesday. -/
def scattered : Session :=
  emptyMemory.runAll
    [.replaceEntries [⟨.monday, 1, "数学", none, none⟩], .createMarker monday "月1→火1水1火1"]

theorem effectiveSorted_again_scattered :
    scattered.Reachable ∧ scattered.faults = [] ∧
      ∃ slots again after, scattered.run (.effectiveSorted monday) = (.slots slots, after) ∧
        (after.run (.effectiveSorted monday)).1 = .slots again ∧ again.Perm slots ∧
        (slots.Pairwise fun early late => early.period ≤ late.period) ∧
        (again.Pairwise fun early late => early.period ≤ late.period) ∧
        (again = slots ↔ scattered.SettlesInOrder monday) :=
  have reachable : scattered.Reachable := reachable_emptyMemory.runAll _
  ⟨reachable, rfl, effectiveSorted_again reachable rfl monday⟩

/-- The second class of Tuesday moves ahead of that of Wednesday when the rows are gathered. -/
theorem scattered_moves :
    scattered.Reachable ∧ scattered.faults = [] ∧
      ∃ slots again, (scattered.run (.effectiveSorted monday)).1 = .slots slots ∧
        ((scattered.run (.effectiveSorted monday)).2.run (.effectiveSorted monday)).1 =
          .slots again ∧ again ≠ slots := by
  have reachable : scattered.Reachable := reachable_emptyMemory.runAll _
  have taught : scattered.classesOn .monday = [⟨.monday, 1, "数学", none, none⟩] :=
    List.mergeSort_singleton _
  have marked : (scattered.run (.findMarker monday)).1 = .marker (some ⟨"月1→火1水1火1", 1⟩) := by
    rfl
  have unsettled : ¬ scattered.SettlesInOrder monday := by
    intro settles
    have ordered := settles _ (by rfl) marked
    have copied : ∀ row ∈ Marker.rows ⟨"月1→火1水1火1", 1⟩ monday.weekday,
        row.source = .monday ∧ row.sourcePeriod.number = 1 := by decide
    have all : (Marker.rows ⟨"月1→火1水1火1", 1⟩ monday.weekday).filter scattered.isTaught =
        Marker.rows ⟨"月1→火1水1火1", 1⟩ monday.weekday := by
      refine List.filter_eq_self.mpr fun row member => ?_
      rw [isTaught, (copied row member).1, taught]
      simp [(copied row member).2]
    rw [Row.InOrder, all] at ordered
    revert ordered
    decide
  obtain ⟨view, shown⟩ := reachable.shows rfl
  obtain ⟨slots, again, after, ran, ranAgain, _, _, _, same_iff⟩ := shown.lookTwice monday
  rw [ran]
  exact ⟨reachable, rfl, slots, again, rfl, ranAgain, mt same_iff.mp unsettled⟩

end Session
end SchoolWeek
