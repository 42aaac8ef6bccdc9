import Mathlib
import SchoolWeek.Proofs.DateOrder
import SchoolWeek.Proofs.SessionContract

/-! Which dates are listed between two dates. The backend in memory lists the recorded
dates between them in the order of the calendar. The backend of tables goes by the
texts of the dates instead, and its list is the same exactly if the order of the texts
fits the order of the calendar on the dates that matter, as it does whenever both
bounds have a plain year. -/
namespace SchoolWeek

namespace Date

/-- The date is neither before the first nor after the last. -/
def IsBetween (date first last : Date) : Prop := ¬ date.Before first ∧ ¬ last.Before date

/-- The same of the texts of the dates. -/
def TextIsBetween (date first last : Date) : Prop :=
  ¬ date.text < first.text ∧ ¬ last.text < date.text

/-- Between plain years a text is what a date is: signed years are outside either way. -/
theorem textIsBetween_iff {date first last : Date} (firstPlain : first.HasPlainYear)
    (lastPlain : last.HasPlainYear) :
    date.TextIsBetween first last ↔ date.IsBetween first last := by
  unfold TextIsBetween IsBetween
  by_cases plain : date.HasPlainYear
  · rw [text_lt_iff plain firstPlain, text_lt_iff lastPlain plain]
  · have textOutside : date.text < first.text := text_lt_of_signed plain firstPlain
    have outside : date.Before first ∨ last.Before date := by
      unfold HasPlainYear at plain firstPlain lastPlain
      unfold Before
      omega
    constructor
    · exact fun between => (between.1 textOutside).elim
    · exact fun between => (outside.elim between.1 between.2).elim

theorem HasPlainYear.of_textIsBetween {date first last : Date} (firstPlain : first.HasPlainYear)
    (between : date.TextIsBetween first last) : date.HasPlainYear := by
  by_contra signed
  exact between.1 (text_lt_of_signed signed firstPlain)

end Date

namespace Tables

theorem textLe_iff {left right : String} : textLe left right = true ↔ left ≤ right := by
  rw [textLe, Bool.not_eq_true', decide_eq_false_iff_not]
  exact Iff.rfl

theorem mem_listedDates {records : List Record} {first last date : Date} :
    date ∈ listedDates records first last ↔
      date ∈ records.map Record.date ∧ date.TextIsBetween first last := by
  rw [listedDates, List.mem_mergeSort, List.mem_filter, Bool.and_eq_true, textLe_iff, textLe_iff]
  exact Iff.rfl

theorem listedDates_sorted (records : List Record) (first last : Date) :
    (listedDates records first last).Pairwise fun left right => left.text ≤ right.text := by
  have transitive (early middle late : Date) (first : textLe early.text middle.text = true)
      (second : textLe middle.text late.text = true) : textLe early.text late.text = true :=
    textLe_iff.mpr ((textLe_iff.mp first).trans (textLe_iff.mp second))
  have total (left right : Date) :
      (textLe left.text right.text || textLe right.text left.text) = true := by
    rw [Bool.or_eq_true, textLe_iff, textLe_iff]
    exact le_total _ _
  exact (List.pairwise_mergeSort transitive total _).imp textLe_iff.mp

theorem listedDates_nodup {records : List Record} (distinct : (records.map Record.date).Nodup)
    (first last : Date) : (listedDates records first last).Nodup :=
  (List.mergeSort_perm _ _).nodup_iff.mpr (distinct.filter _)

end Tables

namespace Session

/-- There is a record of the date. -/
def HasRecord (session : Session) (date : Date) : Prop :=
  ∃ record, (session.run (.record date)).1 = .record (some record)

/-- These are the recorded dates between the two, in the order of the calendar. -/
structure Lists (session : Session) (first last : Date) (dates : List Date) : Prop where
  mem_iff : ∀ date, date ∈ dates ↔ session.HasRecord date ∧ date.IsBetween first last
  ascending : dates.Pairwise Date.Before

/-- On the recorded dates, the order of the texts is as good as that of the calendar. -/
structure TextsFit (session : Session) (first last : Date) : Prop where
  between_iff : ∀ date, session.HasRecord date →
    (date.TextIsBetween first last ↔ date.IsBetween first last)
  lt_of_before : ∀ early late, session.HasRecord early → session.HasRecord late →
    early.IsBetween first last → late.IsBetween first last →
    early.Before late → early.text < late.text

/-- The dates are kept as text. -/
def KeepsTexts : Session → Prop
  | memory _ => False
  | tables _ _ => True

theorem Shows.hasRecord_iff {session : Session} {view : View} (shown : session.Shows view)
    (date : Date) : session.HasRecord date ↔ (view.recordOn date).isSome = true := by
  rw [HasRecord, (shown.record date).1, Option.isSome_iff_exists]
  simp

theorem textsFit_of_plain {session : Session} {first last : Date}
    (firstPlain : first.HasPlainYear) (lastPlain : last.HasPlainYear) :
    session.TextsFit first last where
  between_iff _ _ := Date.textIsBetween_iff firstPlain lastPlain
  lt_of_before early late _ _ earlyBetween lateBetween before := by
    have earlyText := (Date.textIsBetween_iff firstPlain lastPlain).mpr earlyBetween
    have lateText := (Date.textIsBetween_iff firstPlain lastPlain).mpr lateBetween
    exact (Date.text_lt_iff (.of_textIsBetween firstPlain earlyText)
      (.of_textIsBetween firstPlain lateText)).mpr before

theorem isSome_find?_date (records : List Record) (date : Date) :
    (records.find? (·.date == date)).isSome = true ↔ date ∈ records.map Record.date := by
  simp

/-- Two members of an ordered list stand in one order or the other. -/
theorem or_of_pairwise {α : Type} {ordered : α → α → Prop} {list : List α} {left right : α}
    (pairwise : list.Pairwise ordered) (isLeft : left ∈ list) (isRight : right ∈ list)
    (different : left ≠ right) : ordered left right ∨ ordered right left := by
  have either : list.Pairwise fun left right => ordered left right ∨ ordered right left :=
    pairwise.imp Or.inl
  have : Std.Symm fun left right => ordered left right ∨ ordered right left := ⟨fun _ _ => Or.symm⟩
  exact either.forall isLeft isRight different

/-- A list by texts is the list by the calendar if and only if the two orders fit. -/
theorem lists_listedDates_iff {session : Session} {records : List Record} {first last : Date}
    (distinct : (records.map Record.date).Nodup)
    (recorded : ∀ date, session.HasRecord date ↔ date ∈ records.map Record.date) :
    session.Lists first last (Tables.listedDates records first last) ↔
      session.TextsFit first last := by
  have mem_iff (date : Date) : date ∈ Tables.listedDates records first last ↔
      session.HasRecord date ∧ date.TextIsBetween first last := by
    rw [Tables.mem_listedDates, recorded]
  have sorted := Tables.listedDates_sorted records first last
  have nodup := Tables.listedDates_nodup distinct first last
  constructor
  · intro lists
    refine ⟨fun date hasRecord => ?_, ?_⟩
    · have same := (mem_iff date).symm.trans (lists.mem_iff date)
      simpa [hasRecord] using same
    · intro early late hasEarly hasLate earlyBetween lateBetween before
      have different : early ≠ late := fun same => late.not_before_self (same ▸ before)
      rcases or_of_pairwise (lists.ascending.and sorted)
        ((lists.mem_iff early).mpr ⟨hasEarly, earlyBetween⟩)
        ((lists.mem_iff late).mpr ⟨hasLate, lateBetween⟩) different with ordered | ordered
      · exact lt_of_le_of_ne ordered.2 (Date.text_injective.ne different)
      · exact (ordered.1.asymm before).elim
  · intro fit
    have mem_iff_between (date : Date) : date ∈ Tables.listedDates records first last ↔
        session.HasRecord date ∧ date.IsBetween first last := by
      rw [mem_iff]
      exact and_congr_right (fit.between_iff date)
    refine ⟨mem_iff_between, ?_⟩
    refine (sorted.and nodup).imp_of_mem ?_
    rintro left right isLeft isRight ⟨ordered, different⟩
    obtain ⟨hasLeft, leftBetween⟩ := (mem_iff_between left).mp isLeft
    obtain ⟨hasRight, rightBetween⟩ := (mem_iff_between right).mp isRight
    rcases Date.before_or_eq_or_after left right with before | same | after
    · exact before
    · exact (different same).elim
    · have reversed := fit.lt_of_before right left hasRight hasLeft rightBetween leftBetween after
      exact (not_lt.mpr ordered reversed).elim

/-- The list that a session answers with, and when it is the one by the calendar. -/
theorem Shows.specialDates {session : Session} {view : View} (shown : session.Shows view)
    (first last : Date) :
    ∃ dates, (session.run (.specialDates first last)).1 = .dates dates ∧
      (session.Lists first last dates ↔ (session.KeepsTexts → session.TextsFit first last)) := by
  have hasRecord := shown.hasRecord_iff
  have calm := shown.faults
  cases session with
  | memory state =>
    obtain ⟨_, sound, rfl⟩ := shown
    refine ⟨state.base.datesBetween first last, ?_, ?_⟩
    · exact congrArg (Outcome.ofStore .dates)
        (congrArg Prod.fst (Traced.noted_of_calm .specialDates Traced.storeFault calm))
    · have recorded (date : Date) : (memory state).HasRecord date ↔
          date ∈ state.base.records.map Record.date :=
        (hasRecord date).trans (isSome_find?_date state.base.records date)
      refine iff_of_true ⟨fun date => ?_, sound.sorted.filter _⟩ fun texts => texts.elim
      rw [Memory.datesBetween, List.mem_filter, recorded]
      simp [Date.IsBetween]
  | tables inFile state =>
    obtain ⟨_, records, holds⟩ := shown
    refine ⟨Tables.listedDates records first last, ?_, ?_⟩
    · have listed : TableStore.reading (·.datesBetween first last) state.base = _ :=
        TableStore.reading_eq_ok (holds.holds.datesBetween first last)
      have ran : (Backend.specialDates first last state).1 =
          (TableStore.reading (·.datesBetween first last) state.base).1 :=
        congrArg Prod.fst (Traced.noted_of_calm .specialDates Traced.storeFault calm)
      exact congrArg (Outcome.ofStore .dates) (ran.trans (congrArg Prod.fst listed))
    · have recorded (date : Date) : (tables inFile state).HasRecord date ↔
          date ∈ records.map Record.date := by
        rw [hasRecord, holds.recordOn, isSome_find?_date]
      rw [lists_listedDates_iff holds.holds.distinct recorded]
      exact ⟨fun fit _ => fit, fun fit => fit trivial⟩

/-- Every question for the special dates between two dates is answered with a list. It is
the list of the recorded dates between them in the order of the calendar if and only if
the order of the texts fits there or the dates are not kept as text, and so in any case
between dates with plain years. -/
theorem specialDates_answer {session : Session} (reachable : session.Reachable)
    (calm : session.faults = []) (first last : Date) :
    ∃ dates, (session.run (.specialDates first last)).1 = .dates dates ∧
      (session.Lists first last dates ↔ (session.KeepsTexts → session.TextsFit first last)) ∧
      (first.HasPlainYear → last.HasPlainYear → session.Lists first last dates) := by
  obtain ⟨view, shown⟩ := reachable.shows calm
  obtain ⟨dates, answered, lists_iff⟩ := shown.specialDates first last
  refine ⟨dates, answered, lists_iff, fun firstPlain lastPlain => ?_⟩
  exact lists_iff.mpr fun _ => textsFit_of_plain firstPlain lastPlain

def lastPlain : Date := ⟨9999, 12, 31, by decide⟩

def firstSigned : Date := ⟨10000, 1, 1, by decide⟩

/-- A session whose tables have a record of a date with a signed year. -/
def farAhead : Session := emptyTables.runAll [.replace firstSigned [] "x"]

theorem specialDates_answer_farAhead :
    farAhead.Reachable ∧ farAhead.faults = [] ∧
      ∃ dates, (farAhead.run (.specialDates lastPlain firstSigned)).1 = .dates dates ∧
        (farAhead.Lists lastPlain firstSigned dates ↔
          (farAhead.KeepsTexts → farAhead.TextsFit lastPlain firstSigned)) ∧
        (lastPlain.HasPlainYear → firstSigned.HasPlainYear →
          farAhead.Lists lastPlain firstSigned dates) :=
  have reachable : farAhead.Reachable := reachable_emptyTables.runAll _
  ⟨reachable, rfl, specialDates_answer reachable rfl lastPlain firstSigned⟩

/-- The sign of the year puts the recorded date before the first one asked for. -/
theorem farAhead_not_listed :
    farAhead.Reachable ∧ farAhead.faults = [] ∧ farAhead.HasRecord firstSigned ∧
      firstSigned.IsBetween lastPlain firstSigned ∧
      (farAhead.run (.specialDates lastPlain firstSigned)).1 = .dates [] := by
  refine ⟨reachable_emptyTables.runAll _, rfl, ⟨⟨firstSigned, "x", []⟩, by rfl⟩, ?_, ?_⟩
  · unfold Date.IsBetween
    decide
  · have listed := (Tables.holds_empty.replace firstSigned [] "x").datesBetween lastPlain firstSigned
    have nothing : Tables.listedDates [⟨firstSigned, "x", []⟩] lastPlain firstSigned = [] := by
      refine List.eq_nil_iff_forall_not_mem.mpr fun date member => ?_
      obtain ⟨recorded, between⟩ := Tables.mem_listedDates.mp member
      obtain rfl := List.mem_singleton.mp recorded
      exact between.1 (Date.text_lt_of_signed (by decide) (by decide))
    exact congrArg (fun read => Outcome.ofStore .dates (read.mapError StoreError.badData))
      (listed.trans (congrArg Except.ok nothing))

end Session
end SchoolWeek
