import Mathlib
import SchoolWeek.Proofs.Storing

/-! Short days. Applying a name of one of the built-in short days leaves, of the normal
classes of the date, those of the first periods, each in its place and marked as special. -/
namespace SchoolWeek

namespace Period

theorem decimal_number (period : Period) : Text.decimal period.number = [period.digit] := by
  obtain ⟨number, one_le, le_nine⟩ := period
  show Nat.toDigits 10 number = _
  rw [Nat.toDigits_of_lt_base (by omega)]
  interval_cases number <;> rfl

theorem mem_range {first last : Nat} {period : Period} :
    period ∈ range first last ↔ first ≤ period.number ∧ period.number ≤ last := by
  rw [range, List.mem_filter, and_iff_right (mem_all period), Bool.and_eq_true,
    decide_eq_true_eq, decide_eq_true_eq]

theorem range_ascends (first last : Nat) :
    (range first last).Pairwise fun early late => early.number < late.number := by
  have all : Period.all.Pairwise fun early late => early.number < late.number := by decide
  exact all.filter _

end Period

/-- The class as a short day has it: in its place, and special. -/
def Slot.kept (day : Weekday) (slot : Slot) : Slot :=
  { slot with
    isSpecial := true
    origin? := some (String.ofList (['(', day.glyph] ++ Text.decimal slot.period ++ [')'])) }

/-- The normal classes in the periods up to the last. -/
def Slot.firstPeriods (last : Nat) (slots : List Slot) : List Slot :=
  slots.filter fun slot => 1 ≤ slot.period && slot.period ≤ last

namespace Entry

/-- In classes by period, looking for one period after the other passes over the others. -/
theorem filterMap_find?_range {classes : List Entry}
    (ascends : classes.Pairwise fun early late => early.period < late.period)
    (proper : ∀ entry ∈ classes, entry.IsProper) (first last : Nat) :
    (Period.range first last).filterMap (fun period => classes.find? (·.period == period.number)) =
      classes.filter fun entry => first ≤ entry.period && entry.period ≤ last := by
  have asymm : Std.Asymm fun early late : Entry => early.period < late.period :=
    ⟨fun _ _ => lt_asymm⟩
  have distinct : (classes.map Entry.period).Nodup :=
    List.pairwise_map.mpr (ascends.imp fun before => before.ne)
  have inOrder : ((Period.range first last).filterMap fun period =>
      classes.find? (·.period == period.number)).Pairwise
        fun early late => early.period < late.period := by
    refine List.pairwise_filterMap.mpr ((Period.range_ascends first last).imp ?_)
    intro early late before entry isEntry other isOther
    rw [((find?_key_iff distinct).mp isEntry).2, ((find?_key_iff distinct).mp isOther).2]
    exact before
  refine inOrder.eq_of_mem_iff (ascends.filter _) fun entry => ?_
  rw [List.mem_filterMap, List.mem_filter, Bool.and_eq_true, decide_eq_true_eq, decide_eq_true_eq]
  constructor
  · rintro ⟨period, listed, found⟩
    obtain ⟨member, same⟩ := (find?_key_iff distinct).mp found
    rw [same]
    exact ⟨member, Period.mem_range.mp listed⟩
  · rintro ⟨member, inside⟩
    obtain ⟨one_le, le_nine⟩ := (proper entry member).1
    exact ⟨⟨entry.period, one_le, le_nine⟩, Period.mem_range.mpr inside,
      (find?_key_iff distinct).mpr ⟨member, rfl⟩⟩

end Entry

/-- A class that is copied from its own cell into its own cell is kept. -/
theorem Slot.copied_keep {entry : Entry} {period : Period} (same : entry.period = period.number)
    (periods : List Period) : copied (Remap.keep entry.day periods) period period entry =
      kept entry.day (ofEntry entry) := by
  have origin : originText entry.day period =
      String.ofList (['(', entry.day.glyph] ++ Text.decimal entry.period ++ [')']) := by
    rw [same, Period.decimal_number]
    rfl
  rw [kept, ofEntry, copied, ← same]
  exact congrArg (fun origin => Slot.mk _ true (some origin)) origin

/-- The classes that keeping the first periods of a day copies. -/
theorem Engine.copies_keep {day : Weekday} {classes : List Entry}
    (ascends : classes.Pairwise fun early late => early.period < late.period)
    (proper : ∀ entry ∈ classes, entry.IsProper) (onDay : ∀ entry ∈ classes, entry.day = day)
    (last : Nat) : copies (Remap.keep day (Period.range 1 last)) classes =
      (Slot.firstPeriods last (classes.map Slot.ofEntry)).map (Slot.kept day) := by
  have inPlace (period : Period) : (classes.find? (·.period == period.number)).map
      (Slot.copied (Remap.keep day (Period.range 1 last)) period period) =
        (classes.find? (·.period == period.number)).map fun entry =>
          Slot.kept day (Slot.ofEntry entry) := by
    refine Option.map_congr fun entry found => ?_
    have same := List.find?_some found
    rw [← onDay entry (List.mem_of_find?_eq_some found)]
    exact Slot.copied_keep (beq_iff_eq.mp same) _
  calc copies (Remap.keep day (Period.range 1 last)) classes
      = (Period.range 1 last).filterMap fun period =>
          (classes.find? (·.period == period.number)).map fun entry =>
            Slot.kept day (Slot.ofEntry entry) := by
        rw [copies, Remap.keep, List.filterMap_map]
        exact List.filterMap_congr fun period _ => inPlace period
    _ = ((Period.range 1 last).filterMap fun period =>
          classes.find? (·.period == period.number)).map fun entry =>
            Slot.kept day (Slot.ofEntry entry) := List.map_filterMap.symm
    _ = (Slot.firstPeriods last (classes.map Slot.ofEntry)).map (Slot.kept day) := by
        rw [Entry.filterMap_find?_range ascends proper, Slot.firstPeriods, List.filter_map,
          List.map_map]
        rfl

namespace View

variable {view : View}

theorem mem_classesOn {day : Weekday} {entry : Entry} :
    entry ∈ view.classesOn day ↔ entry ∈ view.entries ∧ entry.day = day := by
  rw [classesOn, Entry.sortByPeriod, List.mem_mergeSort, List.mem_filter, beq_iff_eq]

theorem classesOn_ascends (checked : Entry.check view.entries = .ok ()) (day : Weekday) :
    (view.classesOn day).Pairwise fun early late => early.period < late.period := by
  have distinct := (Entry.check_eq_ok_iff.mp checked).2
  have onDay {entry : Entry} (member : entry ∈ view.classesOn day) : entry.day = day :=
    (mem_classesOn.mp member).2
  have ascends : (view.classesOn day).Pairwise Entry.Precedes := by
    rw [classesOn, Entry.sortByPeriod_day distinct]
    exact (Entry.sortByCell_ascends distinct).filter _
  exact ascends.imp_of_mem fun isEarly isLate before =>
    before.period_lt ((onDay isEarly).trans (onDay isLate).symm)

/-- The schedule under a remap that keeps the first periods of the date's weekday. -/
theorem merge_keep (checked : Entry.check view.entries = .ok ()) (date : Date) (last : Nat) :
    view.merge [Remap.keep date.weekday (Period.range 1 last)] =
      (Slot.firstPeriods last (view.normalSchedule date)).map (Slot.kept date.weekday) := by
  have proper : ∀ entry ∈ view.classesOn date.weekday, entry.IsProper := fun entry member =>
    (Entry.check_eq_ok_iff.mp checked).1 entry (mem_classesOn.mp member).1
  have onDay : ∀ entry ∈ view.classesOn date.weekday, entry.day = date.weekday :=
    fun entry member => (mem_classesOn.mp member).2
  rw [merge, List.flatMap_singleton, normalSchedule]
  exact Engine.copies_keep (classesOn_ascends checked _) proper onDay last

end View

/-- The short days, and the last period that is held on each. -/
def Plan.shortDays : List (Kind × Nat) := [(.shortA, 4), (.shortB, 3), (.shortC, 3), (.exam, 3)]

/-- A name of a short day keeps the first periods. -/
theorem Plan.preview_short {name : String} {kind : Kind} {last : Nat}
    (short : (kind, last) ∈ shortDays) (named : Kind.ofPatternName name.toList = kind)
    (day : Weekday) : preview name day none = [Remap.keep day (Period.range 1 last)] := by
  have plan : preview name day none = ofKind kind name.toList day := by
    rw [← named]
    rfl
  rw [plan]
  simp only [shortDays, List.mem_cons, Prod.mk.injEq, List.not_mem_nil, or_false] at short
  rcases short with ⟨rfl, rfl⟩ | ⟨rfl, rfl⟩ | ⟨rfl, rfl⟩ | ⟨rfl, rfl⟩ <;> rfl

theorem Plan.range_short_ne_nil {kind : Kind} {last : Nat} (short : (kind, last) ∈ shortDays) :
    Period.range 1 last ≠ [] := by
  have one_le : 1 ≤ last := by
    simp only [shortDays, List.mem_cons, Prod.mk.injEq, List.not_mem_nil, or_false] at short
    omega
  have first : (⟨1, le_rfl, by decide⟩ : Period) ∈ Period.range 1 last :=
    Period.mem_range.mpr ⟨le_rfl, one_le⟩
  exact List.ne_nil_of_mem first

namespace Session

/-- On a date for which a short day was applied, the classes held are the normal ones of the
first periods, each in its place and marked as special. -/
theorem short_day_is_first_periods {session : Session} {date : Date} {name : String} {kind : Kind}
    {last : Nat} {flag : Bool} (reachable : session.Reachable) (calm : session.faults = [])
    (short : (kind, last) ∈ Plan.shortDays) (named : Kind.ofPatternName name.toList = kind)
    (answered : (session.run (.apply date name none)).1 = .flag flag) :
    let applied := (session.run (.apply date name none)).2
    flag = true ∧ ∃ normal : List Slot,
      (session.run (.normal date)).1 = .slots normal ∧
        (applied.run (.normal date)).1 = .slots normal ∧
        (applied.run (.effective date)).1 =
          .slots ((Slot.firstPeriods last normal).map (Slot.kept date.weekday)) := by
  obtain ⟨view, base⟩ := reachable.baseShows
  have checked : Entry.check view.entries = .ok () := by
    rw [base.entries]
    exact reachable.checked
  have shown := base.shows calm
  have onWeekday : session.run (.apply date name none) =
      session.run (.applyOn date name date.weekday none) := by
    cases session <;> rfl
  rw [onWeekday] at answered ⊢
  obtain ⟨_, rfl, _, event, _, after⟩ := shown.applyOn_ok answered
  rw [Plan.preview_short short named] at after ⊢
  have read : Remap.regroup (Remap.flatten [Remap.keep date.weekday (Period.range 1 last)] name) =
      [Remap.keep date.weekday (Period.range 1 last)] := by
    refine (Remap.regroup_flatten_eq_iff name).mpr ⟨List.nodup_singleton _, ?_⟩
    intro remap member
    rw [List.mem_singleton.mp member]
    exact mt List.map_eq_nil_iff.mp (Plan.range_short_ne_nil short)
  refine ⟨rfl, view.normalSchedule date, (shown.normal date).1, (after.normal date).1, ?_⟩
  rw [(after.effective date).1,
    View.effectiveSchedule_of_settled (View.remapsFor_recorded (View.withRecord_recordOn_self ..)),
    read, ← View.merge_keep checked]
  rfl

/-- A session with gaps on Monday, classes in any order and a class on another day. -/
def gaps : List Entry :=
  [⟨.monday, 5, "体育", none, none⟩, ⟨.monday, 3, "理科", some "実験室", none⟩,
    ⟨.tuesday, 2, "音楽", none, none⟩, ⟨.monday, 1, "国語", none, some "#ff0000"⟩]

theorem short_day_is_first_periods_gaps :
    let session := emptyTables.runAll [.replaceEntries gaps]
    let applied := (session.run (.apply monday "午後短縮Ａ・短縮A" none)).2
    session.Reachable ∧ session.faults = [] ∧ (Kind.shortA, 4) ∈ Plan.shortDays ∧
      Kind.ofPatternName "午後短縮Ａ・短縮A".toList = .shortA ∧
      (session.run (.apply monday "午後短縮Ａ・短縮A" none)).1 = .flag true ∧
      ∃ normal : List Slot, (session.run (.normal monday)).1 = .slots normal ∧
        (applied.run (.normal monday)).1 = .slots normal ∧
        (applied.run (.effective monday)).1 =
          .slots ((Slot.firstPeriods 4 normal).map (Slot.kept monday.weekday)) := by
  have reachable : (emptyTables.runAll [.replaceEntries gaps]).Reachable :=
    reachable_emptyTables.runAll _
  have short : (Kind.shortA, 4) ∈ Plan.shortDays := by decide
  have named : Kind.ofPatternName "午後短縮Ａ・短縮A".toList = .shortA := by decide
  have answered : ((emptyTables.runAll [.replaceEntries gaps]).run
      (.apply monday "午後短縮Ａ・短縮A" none)).1 = .flag true := by rfl
  exact ⟨reachable, rfl, short, named, answered,
    (short_day_is_first_periods reachable rfl short named answered).2⟩

end Session

end SchoolWeek
