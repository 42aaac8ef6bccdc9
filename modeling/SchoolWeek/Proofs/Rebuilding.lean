import Mathlib
import SchoolWeek.Proofs.KeptPeriods
import SchoolWeek.Proofs.NamedPeriods
import SchoolWeek.Proofs.ShortDay

/-! A special schedule that has its marker but not its record is rebuilt from the marker
when the date is looked at again. A custom text comes back out of the marker whole, but
it is then read as the name of a pattern: a keyword in it stands for a built-in kind. -/
namespace SchoolWeek

theorem Fault.call_of_mem_struck {fault left : Fault} (member : left ∈ fault.struck) :
    left.call = fault.call := by
  unfold struck at member
  split_ifs at member
  · rw [List.mem_singleton.mp member]
  · cases member
  · rw [List.mem_singleton.mp member]

namespace Traced

variable {σ : Type}

/-- Lifting a fault leaves nothing of it, even if it has struck before. -/
theorem faults_lift {traced : Traced σ} {fault : Fault}
    (only : ∀ left ∈ traced.faults, left.call = fault.call) :
    (traced.setFault { fault with times := 0 }).faults = [] := by
  rw [setFault, if_pos rfl]
  exact List.filter_eq_nil_iff.mpr fun left member => by simp [only left member]

variable [Backend σ] [Backend.Lawful σ]

/-- When storing the record fails, the marker stays and nothing else has changed. -/
theorem Shows.applyOn_interrupted {traced : Traced σ} {view : View} {fault : Fault} {date : Date}
    (shown : traced.Shows view) (onReplace : fault.call = .replace) (strikes : fault.times ≠ 0)
    (permitted : view.permitted = true) (followed : date.next?.isSome) (patternName : String)
    (day : Weekday) (custom? : Option String) :
    ∃ created handle,
      created.marker? date =
        some ⟨String.ofList (Text.trim (View.markerText patternName custom?).toList), handle⟩ ∧
      created.recordOn = view.recordOn ∧
      ((Engine.applyOn date patternName day custom? (traced.setFault fault)).2.setFault
        { fault with times := 0 }).Shows created := by
  obtain ⟨handle, _, made⟩ :=
    Backend.Lawful.createMarker date (View.markerText patternName custom?) shown.2
  obtain ⟨created, creates, marker, records⟩ := View.createMarker_marks permitted followed handle
    (View.markerText patternName custom?)
  rw [creates] at made
  obtain ⟨base, ran, shownBase⟩ := made.ran
  have laid : (traced.setFault fault).faults = [fault] := by
    rw [setFault, shown.1, if_neg strikes]
    rfl
  have marks : Backend.createMarker date (View.markerText patternName custom?)
      (traced.setFault fault) =
        (.ok handle, ⟨base, traced.calls ++ [.createMarker], [fault]⟩) := by
    have free : (traced.setFault fault).faults.find? (·.call == .createMarker) = none := by
      rw [laid]
      simp [onReplace]
    refine (noted_of_none _ free).trans ?_
    rw [below, show (traced.setFault fault).base = traced.base from rfl, ran, laid]
    rfl
  have fails : Backend.replace date (Plan.preview patternName day custom?) patternName
      (⟨base, traced.calls ++ [.createMarker], [fault]⟩ : Traced σ) =
        (.error fault.storeError,
          ⟨base, traced.calls ++ [.createMarker] ++ [.replace], fault.struck⟩) := by
    show Traced.noted .replace _ _ _ = _
    simp only [Traced.noted, enter, onReplace, List.find?_cons, beq_self_eq_true]
    simp [onReplace, storeFault]
  have ended : (Engine.applyOn date patternName day custom? (traced.setFault fault)).2 =
      ⟨base, traced.calls ++ [.createMarker] ++ [.replace], fault.struck⟩ := by
    rw [Engine.applyOn, ← View.markerText, marks]
    dsimp only
    rw [fails]
  refine ⟨created, handle, marker, records, ?_, ?_⟩
  · rw [ended]
    exact faults_lift fun left member => Fault.call_of_mem_struck member
  · rw [ended]
    exact shownBase

end Traced

namespace Kind

/-- A keyword of a built-in kind stands in the name, in either case of its letters. -/
def HasKeyword (name : List Char) : Prop :=
  ∃ entry ∈ keywords, ∃ keyword ∈ entry.2,
    Text.occurs keyword.toList (name.map Char.toLower) = true

theorem ofPatternName_eq_custom_iff (name : List Char) :
    ofPatternName name = .custom ↔ ¬ HasKeyword name := by
  have builtIn : ∀ entry ∈ keywords, entry.1 ≠ .custom := by decide
  unfold ofPatternName HasKeyword
  dsimp only
  split
  · rename_i kind words found
    have matching := List.find?_some found
    refine iff_of_false (builtIn _ (List.mem_of_find?_eq_some found)) fun none => none ?_
    exact ⟨_, List.mem_of_find?_eq_some found, List.any_eq_true.mp matching⟩
  · rename_i missing
    refine iff_of_true rfl fun ⟨entry, member, keyword, listed, occurs⟩ => ?_
    exact List.find?_eq_none.mp missing entry member
      (List.any_eq_true.mpr ⟨keyword, listed, occurs⟩)

end Kind

namespace Plan

theorem effectiveCustom?_some {custom : String} (written : Text.trim custom.toList ≠ []) :
    effectiveCustom? (some custom) = some (Text.trim custom.toList) := by
  simp [effectiveCustom?, written]

theorem preview_custom {custom : String} (written : Text.trim custom.toList ≠ [])
    (patternName : String) (day : Weekday) :
    preview patternName day (some custom) = ofNotation (Text.trim custom.toList) day := by
  rw [preview, effectiveCustom?_some written]

/-- As a notation the text happens to say what its keyword stands for: with a word for normal
days it names no period, and with one for short days it keeps the first periods of the day. -/
def SaysTwice (text : List Char) (day : Weekday) : Prop :=
  Kind.ofPatternName text = .normal ∧ ¬ NamesPeriod text ∨
    ∃ short ∈ shortDays, Kind.ofPatternName text = short.1 ∧
      Keeps text day (Period.range 1 short.2)

/-- A text means the same as a name and as a notation exactly if it has no keyword or says the
same twice. -/
theorem ofPatternName_eq_ofNotation_iff {text : List Char} {day : Weekday} :
    ofPatternName text day = ofNotation text day ↔
      ¬ Kind.HasKeyword text ∨ SaysTwice text day := by
  have empty_iff : [] = ofNotation text day ↔ ¬ NamesPeriod text :=
    eq_comm.trans ofNotation_eq_nil_iff
  have keeps_iff {last : Nat} (first : 1 ≤ last) (short : last < 9) :
      [Remap.keep day (Period.range 1 last)] = ofNotation text day ↔
        Keeps text day (Period.range 1 last) := eq_comm.trans (ofNotation_eq_keep_iff first short)
  rw [← Kind.ofPatternName_eq_custom_iff, ofPatternName, SaysTwice]
  cases Kind.ofPatternName text with
  | normal => simp [ofKind, shortDays, empty_iff]
  | custom => simp [ofKind]
  | shortA => simp [ofKind, shortDays, Template.remaps, Template.shortA, keeps_iff]
  | shortB => simp [ofKind, shortDays, Template.remaps, Template.shortB, keeps_iff]
  | shortC => simp [ofKind, shortDays, Template.remaps, Template.shortC, keeps_iff]
  | exam => simp [ofKind, shortDays, Template.remaps, Template.exam, keeps_iff]

example : SaysTwice "短縮A 月1234".toList .monday :=
  .inr ⟨(.shortA, 4), by decide, by decide, .inSegment (by decide) (by decide)⟩

end Plan

namespace View

theorem markerText_custom {custom : String} (written : Text.trim custom.toList ≠ [])
    (patternName : String) :
    markerText patternName (some custom) = String.ofList (Text.trim custom.toList) := by
  rw [markerText, Plan.effectiveCustom?_some written]
  rfl

end View

namespace Session

/-- What can leave a date with the marker of an application but without its record: the
record is cleared, or storing it fails where there was none, until the fault is lifted. -/
inductive Interrupts (session : Session) (date : Date) (patternName custom : String) :
    List Step → Prop
  | cleared : Interrupts session date patternName custom
      [.apply date patternName (some custom), .clear date]
  | failed (fault : Fault) : fault.call = .replace → fault.times ≠ 0 →
    (session.run (.record date)).1 = .record none →
    Interrupts session date patternName custom
      [.setFault fault, .apply date patternName (some custom),
        .setFault { fault with times := 0 }]

/-- Either way the session shows a view with the marker and without the record. -/
theorem Interrupts.shows {session : Session} {view : View} {date : Date}
    {patternName custom : String} {steps : List Step}
    (interrupts : session.Interrupts date patternName custom steps) (shown : session.Shows view)
    (permitted : view.permitted = true) (followed : date.next?.isSome)
    (written : Text.trim custom.toList ≠ []) :
    ∃ left handle, (session.runAll steps).Shows left ∧ left.recordOn date = none ∧
      left.marker? date = some ⟨String.ofList (Text.trim custom.toList), handle⟩ := by
  have text : (String.ofList (Text.trim (View.markerText patternName (some custom)).toList)) =
      String.ofList (Text.trim custom.toList) := by
    rw [View.markerText_custom written, String.toList_ofList, Text.trim_trim]
  cases interrupts with
  | cleared =>
    obtain ⟨handle, _, applied⟩ := shown.apply date patternName (some custom)
    obtain ⟨created, creates, marker, _⟩ := View.createMarker_marks permitted followed handle
      (View.markerText patternName (some custom))
    rw [View.applyOn, creates] at applied
    have cleared := Session.Shows.clear applied.2 date
    refine ⟨_, handle, cleared.2, View.withRecord_recordOn_self _ _ _, ?_⟩
    rw [text] at marker
    exact marker
  | failed fault onReplace strikes missing =>
    have unrecorded : view.recordOn date = none :=
      Outcome.record.inj ((shown.record date).1.symm.trans missing)
    cases session with
    | memory state =>
      obtain ⟨created, handle, marker, records, left⟩ := Traced.Shows.applyOn_interrupted shown
        onReplace strikes permitted followed patternName date.weekday (some custom)
      exact ⟨created, handle, left, by rw [records, unrecorded], by rw [marker, text]⟩
    | tables inFile state =>
      obtain ⟨created, handle, marker, records, left⟩ := Traced.Shows.applyOn_interrupted shown
        onReplace strikes permitted followed patternName date.weekday (some custom)
      exact ⟨created, handle, left, by rw [records, unrecorded], by rw [marker, text]⟩

/-- After an application with a custom text was interrupted, the next look at the date
rebuilds the plan that the text stands for as a pattern name, and stores it. This is the
plan of the application if and only if the text has no keyword of a built-in kind, or says
as a notation what its keyword stands for. -/
theorem remapsFor_rebuilds {session : Session} {date : Date} {patternName custom : String}
    {steps : List Step} (reachable : session.Reachable) (calm : session.faults = [])
    (permitted : session.permitted = true) (followed : date.next?.isSome)
    (written : Text.trim custom.toList ≠ [])
    (interrupts : session.Interrupts date patternName custom steps) :
    let text := Text.trim custom.toList
    let rebuilt := Plan.ofPatternName text date.weekday
    let after := session.runAll steps
    (∃ handle, (after.run (.findMarker date)).1 = .marker (some ⟨String.ofList text, handle⟩)) ∧
      (after.run (.record date)).1 = .record none ∧
      (after.run (.remapsFor date)).1 = .remaps rebuilt ∧
      ((after.run (.remapsFor date)).2.run (.record date)).1 =
        .record (some ⟨date, String.ofList text, Remap.flatten rebuilt (String.ofList text)⟩) ∧
      (rebuilt = Plan.preview patternName date.weekday (some custom) ↔
        ¬ Kind.HasKeyword text ∨ Plan.SaysTwice text date.weekday) := by
  intro text rebuilt after
  obtain ⟨view, shown⟩ := reachable.shows calm
  have granted : view.permitted = true := shown.permitted.trans permitted
  obtain ⟨left, handle, shows, missing, marked⟩ :=
    interrupts.shows shown granted followed written
  have found : left.findMarker date = .ok (left.marker? date) :=
    View.findMarker_permitted (View.permitted_of_marker? marked) date
  have built : left.remapsFor date = left.materialize date ⟨String.ofList text, handle⟩ := by
    rw [View.remapsFor, missing, marked]
  have plan : Plan.ofPatternName (String.ofList text).toList date.weekday = rebuilt := by
    rw [String.toList_ofList]
  refine ⟨⟨handle, ?_⟩, ?_, ?_, ?_, ?_⟩
  · rw [(shows.findMarker date).1, found, marked]
    rfl
  · rw [(shows.record date).1, missing]
  · rw [(shows.remapsFor date).1, built, View.materialize, plan]
  · rw [((shows.remapsFor date).2.record date).1, built, View.materialize, plan,
      View.withRecord_recordOn_self]
  · rw [Plan.preview_custom written]
    exact Plan.ofPatternName_eq_ofNotation_iff

theorem remapsFor_rebuilds_plain :
    Text.trim "月4→火2".toList ≠ [] ∧
      ((emptyMemory.runAll [.apply monday "custom" (some "月4→火2"), .clear monday]).run
        (.remapsFor monday)).1 =
          .remaps (Plan.preview "custom" monday.weekday (some "月4→火2")) := by
  have written : Text.trim "月4→火2".toList ≠ [] := by decide
  have plain : ¬ Kind.HasKeyword (Text.trim "月4→火2".toList) :=
    (Kind.ofPatternName_eq_custom_iff _).mp (by decide)
  obtain ⟨_, _, found, _, same_iff⟩ :=
    remapsFor_rebuilds reachable_emptyMemory rfl rfl (by decide) written
      (.cleared : emptyMemory.Interrupts monday "custom" "月4→火2" _)
  exact ⟨written, found.trans (congrArg Outcome.remaps (same_iff.mpr (.inl plain)))⟩

/-- The word for an exam makes the notation after it count for nothing. -/
theorem exam_notation_not_rebuilt :
    emptyMemory.Reachable ∧ emptyMemory.faults = [] ∧ emptyMemory.permitted = true ∧
      ((emptyMemory.runAll [.apply monday "custom" (some "試験 月4→火2"), .clear monday]).run
        (.remapsFor monday)).1 = .remaps (Plan.Template.exam.remaps .monday) ∧
      Plan.preview "custom" monday.weekday (some "試験 月4→火2") ≠
        Plan.Template.exam.remaps .monday :=
  ⟨reachable_emptyMemory, rfl, rfl, by rfl, by decide⟩

end Session
end SchoolWeek
