import Mathlib
import SchoolWeek.Proofs.InBounds
import SchoolWeek.Proofs.LinePairing

/-! Filling the day from its first period. The slots that the segments name are held one after
the other in the periods of the day, as long as there are any. `Filling` does the same in single
steps, one for each period that is placed, and counts the number of the next target along. The
number is always one more than what is placed, so it stops at ten. -/
namespace SchoolWeek

/-- The slots of a segment in order. -/
def Segment.slots (segment : Segment) : List (Weekday × Period) :=
  segment.periods.map fun period => (segment.day, period)

/-- Which slot is held in which period. -/
def Remap.placings (remap : Remap) : List ((Weekday × Period) × Period) :=
  remap.pairs.map fun pair => ((remap.source, pair.1), pair.2)

theorem Remap.map_fst_placings (remap : Remap) :
    remap.placings.map Prod.fst = remap.sourceSide.slots := by
  rw [placings, Segment.slots, sourceSide, sourcePeriods, List.map_map, List.map_map]
  rfl

theorem Remap.map_snd_placings (remap : Remap) :
    remap.placings.map Prod.snd = remap.targetPeriods := by
  rw [placings, targetPeriods, List.map_map]
  rfl

namespace Plan

/-- What comes first is paired first, and the rest with what that leaves. -/
theorem zip_append_drop {α β : Type} (first rest : List α) (others : List β) :
    (first ++ rest).zip others =
      first.zip others ++ rest.zip (others.drop (first.zip others).length) := by
  induction first generalizing others with
  | nil => rfl
  | cons item first ih =>
    cases others with
    | nil => simp
    | cons other others => simp [ih]

/-- What comes of an open remap and the segments after it. If it got no period, nothing does. -/
def goOn (day : Weekday) (opened : Remap) (free : List Period) (waiting : List Segment) :
    List Remap :=
  if opened.pairs = [] then [] else opened :: fill day free waiting

theorem fill_cons (day : Weekday) (free : List Period) (segment : Segment)
    (waiting : List Segment) :
    fill day free (segment :: waiting) =
      goOn day ⟨segment.day, day, segment.periods.zip free⟩
        (free.drop (segment.periods.zip free).length) waiting := by
  rw [fill, goOn]
  split
  · rename_i nothing
    rw [if_pos nothing]
  · rename_i something
    rw [if_neg something]

theorem fill_nil (day : Weekday) (segments : List Segment) : fill day [] segments = [] := by
  cases segments with
  | nil => rfl
  | cons segment segments => rw [fill_cons, List.zip_nil_right, goOn, if_pos rfl]

/-- The slots of the segments pair off with the free periods. -/
theorem placings_fill (day : Weekday) (free : List Period) {segments : List Segment}
    (named : ∀ segment ∈ segments, segment.periods ≠ []) :
    (fill day free segments).flatMap Remap.placings =
      (segments.flatMap Segment.slots).zip free := by
  induction segments generalizing free with
  | nil => rfl
  | cons segment segments ih =>
    have later := fun free => ih free fun other member =>
      named other (List.mem_cons_of_mem segment member)
    have own : segment.slots.zip free =
        Remap.placings ⟨segment.day, day, segment.periods.zip free⟩ := by
      rw [Segment.slots, List.zip_map_left]
      rfl
    have length : (segment.slots.zip free).length = (segment.periods.zip free).length := by
      rw [own, Remap.placings, List.length_map]
    rw [List.flatMap_cons, zip_append_drop, length, own, fill_cons, goOn]
    split_ifs with none
    · -- a segment has periods, so it is the free ones that have run out
      have spent : free = [] :=
        (List.zip_eq_nil_iff.mp none).resolve_left (named segment List.mem_cons_self)
      rw [spent, List.zip_nil_right, List.drop_nil, List.zip_nil_right]
      rfl
    · rw [List.flatMap_cons, later]

theorem target_of_mem_fill {day : Weekday} {free : List Period} {segments : List Segment} :
    ∀ remap ∈ fill day free segments, remap.target = day := by
  induction segments generalizing free with
  | nil => exact fun remap member => absurd member List.not_mem_nil
  | cons segment segments ih =>
    intro remap member
    rw [fill_cons, goOn] at member
    split_ifs at member
    · cases member
    · rcases List.mem_cons.mp member with rfl | later
      · rfl
      · exact ih remap later

/-- The sides take the segments one after the other, each of them whole but for the last, of
which they take the first periods. -/
def TakesInTurn (segments sides : List Segment) : Prop :=
  sides = [] ∨ ∃ whole last rest part, segments = whole ++ last :: rest ∧
    sides = whole ++ [part] ∧ part.day = last.day ∧ part.periods <+: last.periods

theorem takesInTurn_fill (day : Weekday) (free : List Period) (segments : List Segment) :
    TakesInTurn segments ((fill day free segments).map Remap.sourceSide) := by
  induction segments generalizing free with
  | nil => exact .inl rfl
  | cons segment segments ih =>
    rw [fill_cons, goOn]
    split_ifs with none
    · exact .inl rfl
    have beginning : (segment.periods.zip free).map Prod.fst <+: segment.periods := by
      rw [List.zip_eq_zip_take_min, List.map_fst_zip (by simp)]
      exact List.take_prefix _ _
    rw [List.map_cons]
    rcases ih (free.drop (segment.periods.zip free).length) with ended |
      ⟨whole, last, rest, part, segments_eq, sides_eq, day_eq, begins⟩
    · let own : Remap := ⟨segment.day, day, segment.periods.zip free⟩
      refine .inr ⟨[], segment, segments, own.sourceSide, rfl, ?_, rfl, beginning⟩
      rw [ended]
      rfl
    · -- a later segment got a target, so this one had enough of them
      have left : free.drop (segment.periods.zip free).length ≠ [] := by
        intro nothing
        rw [nothing, fill_nil] at sides_eq
        exact List.append_ne_nil_of_right_ne_nil _ (List.cons_ne_nil _ _) sides_eq.symm
      have enough : segment.periods.length ≤ free.length := by
        rw [Ne, List.drop_eq_nil_iff, List.length_zip] at left
        omega
      have own : Remap.sourceSide ⟨segment.day, day, segment.periods.zip free⟩ = segment := by
        rw [Remap.sourceSide, Remap.sourcePeriods, List.map_fst_zip enough]
      refine .inr ⟨segment :: whole, last, rest, part, ?_, ?_, day_eq, begins⟩
      · rw [segments_eq, List.cons_append]
      · rw [own, sides_eq, List.cons_append]

/-- The stages of filling a day. The number of the next target is counted from 1, and a remap
stays open while the periods of its segment are placed. -/
inductive Filling
  | between (next : Nat) (made : List Remap) (waiting : List Segment)
  | inside (next : Nat) (made : List Remap) (opened : Remap) (left : List Period)
    (waiting : List Segment)
  | finished (next : Nat) (made : List Remap)

namespace Filling

def next : Filling → Nat
  | between next _ _ => next
  | inside next _ _ _ _ => next
  | finished next _ => next

/-- After the open remap. If it is empty there was no target for it, and none will be. -/
def closed (next : Nat) (made : List Remap) (opened : Remap) (waiting : List Segment) : Filling :=
  if opened.pairs = [] then finished next made else between next (made ++ [opened]) waiting

/-- A segment is opened, a period of it is placed, or it is closed, for want of periods or of
targets. -/
inductive Step (day : Weekday) : Filling → Filling → Prop
  | finish {next : Nat} {made : List Remap} : Step day (between next made []) (finished next made)
  | opening {next : Nat} {made : List Remap} {segment : Segment} {waiting : List Segment} :
    Step day (between next made (segment :: waiting))
      (inside next made ⟨segment.day, day, []⟩ segment.periods waiting)
  | place {next : Nat} {made : List Remap} {opened : Remap} {period target : Period}
      {left : List Period} {waiting : List Segment} : Period.ofNat? next = some target →
    Step day (inside next made opened (period :: left) waiting)
      (inside (next + 1) made { opened with pairs := opened.pairs ++ [(period, target)] } left
        waiting)
  | closing {next : Nat} {made : List Remap} {opened : Remap} {left : List Period}
      {waiting : List Segment} : left = [] ∨ Period.ofNat? next = none →
    Step day (inside next made opened left waiting) (closed next made opened waiting)

/-- One stage is reached from another. -/
def Reaches (day : Weekday) : Filling → Filling → Prop := Relation.ReflTransGen (Step day)

/-- How many periods have been placed. -/
def placed : Filling → Nat
  | between _ made _ => (made.flatMap (·.pairs)).length
  | inside _ made opened _ _ => (made.flatMap (·.pairs)).length + opened.pairs.length
  | finished _ made => (made.flatMap (·.pairs)).length

/-- The number of the next target goes with what is placed, and does not pass ten. -/
structure Counts (stage : Filling) : Prop where
  next_eq : stage.next = stage.placed + 1
  le_ten : stage.next ≤ 10

/-- What the filling comes to. -/
def outcome (day : Weekday) : Filling → List Remap
  | between next made waiting => made ++ fill day (Period.all.drop (next - 1)) waiting
  | inside next made opened left waiting =>
    let pairs := left.zip (Period.all.drop (next - 1))
    made ++ goOn day { opened with pairs := opened.pairs ++ pairs }
      ((Period.all.drop (next - 1)).drop pairs.length) waiting
  | finished _ made => made

/-- No more steps than this are to come. -/
def remaining : Filling → Nat
  | between _ _ waiting => 1 + (waiting.map (·.periods.length + 2)).sum
  | inside _ _ _ left waiting => 2 + left.length + (waiting.map (·.periods.length + 2)).sum
  | finished _ _ => 0

variable {day : Weekday} {stage after : Filling}

/-- A target is found for the numbers up to nine only. -/
theorem Step.counts (step : Step day stage after) (counts : stage.Counts) : after.Counts := by
  obtain ⟨next_eq, le_ten⟩ := counts
  cases step with
  | finish => exact ⟨next_eq, le_ten⟩
  | opening => exact ⟨next_eq, le_ten⟩
  | place found =>
    rename_i next made opened period target left waiting
    have number := Period.ofNat?_eq_some_iff.mp found
    have le_nine := target.le_nine
    constructor
    · rw [Filling.next, placed, List.length_append, List.length_singleton, ← Nat.add_assoc]
      exact congrArg (· + 1) next_eq
    · rw [Filling.next]
      omega
  | closing ended =>
    rename_i next made opened left waiting
    rw [placed] at next_eq
    unfold closed
    split_ifs with empty
    · rw [empty] at next_eq
      exact ⟨next_eq, le_ten⟩
    · refine ⟨?_, le_ten⟩
      rw [placed, List.flatMap_append, List.length_append, List.flatMap_singleton]
      exact next_eq

/-- Every step leaves as it is what the filling comes to. -/
theorem Step.outcome_eq (step : Step day stage after) (counts : stage.Counts) :
    after.outcome day = stage.outcome day := by
  have positive : 1 ≤ stage.next := by rw [counts.next_eq]; omega
  cases step with
  | finish => exact (List.append_nil _).symm
  | opening =>
    rw [outcome, outcome, fill_cons]
    rfl
  | place found =>
    rw [outcome, outcome, drop_all_of_some found, List.zip_cons_cons, Nat.add_sub_cancel,
      List.append_assoc]
    rfl
  | closing ended =>
    rename_i next made opened left waiting
    have nothing : left.zip (Period.all.drop (next - 1)) = [] := by
      rcases ended with rfl | missing
      · exact List.zip_nil_left
      · have spent : Period.all.drop (next - 1) = [] := drop_all_of_none positive missing
        rw [spent, List.zip_nil_right]
    rw [outcome, nothing, List.append_nil, List.length_nil, List.drop_zero]
    unfold closed goOn
    split_ifs
    · rw [outcome, List.append_nil]
    · rw [outcome, List.append_assoc, List.singleton_append]

theorem Step.remaining_lt (step : Step day stage after) : after.remaining < stage.remaining := by
  cases step with
  | finish => exact Nat.one_pos
  | opening =>
    rw [remaining, remaining, List.map_cons, List.sum_cons]
    omega
  | place found =>
    rw [remaining, remaining, List.length_cons]
    omega
  | closing ended =>
    unfold closed
    split_ifs <;> rw [remaining, remaining] <;> omega

/-- No stage is stuck before the end. -/
theorem exists_step (day : Weekday) (stage : Filling) :
    (∃ next made, stage = finished next made) ∨ ∃ after, Step day stage after := by
  cases stage with
  | finished next made => exact .inl ⟨next, made, rfl⟩
  | between next made waiting =>
    cases waiting with
    | nil => exact .inr ⟨_, .finish⟩
    | cons segment waiting => exact .inr ⟨_, .opening⟩
  | inside next made opened left waiting =>
    cases left with
    | nil => exact .inr ⟨_, .closing (.inl rfl)⟩
    | cons period left =>
      cases found : Period.ofNat? next with
      | some target => exact .inr ⟨_, .place found⟩
      | none => exact .inr ⟨_, .closing (.inr found)⟩

theorem Reaches.counts (reached : Reaches day stage after) (counts : stage.Counts) :
    after.Counts := by
  induction reached with
  | refl => exact counts
  | tail _ step ih => exact step.counts ih

theorem Reaches.outcome_eq (reached : Reaches day stage after) (counts : stage.Counts) :
    after.outcome day = stage.outcome day := by
  induction reached with
  | refl => rfl
  | tail before step ih => exact (step.outcome_eq (Reaches.counts before counts)).trans ih

/-- By induction on what remains: every filling ends, with its outcome made. -/
theorem reaches_finished (day : Weekday) (stage : Filling) (counts : stage.Counts) :
    Reaches day stage
      (finished (((stage.outcome day).flatMap (·.pairs)).length + 1) (stage.outcome day)) := by
  induction remains : stage.remaining using Nat.strong_induction_on generalizing stage with
  | _ remaining ih =>
    rcases exists_step day stage with ⟨next, made, rfl⟩ | ⟨after, step⟩
    · have next_eq : next = (made.flatMap (·.pairs)).length + 1 := counts.next_eq
      rw [next_eq]
      exact .refl
    · have later := ih _ (remains ▸ step.remaining_lt) after (step.counts counts) rfl
      rw [step.outcome_eq counts] at later
      exact .head step later

end Filling

/-- The first slots of the text, nine of them if there are so many, are held from the first
period on without a gap, all on the given day. They are taken segment by segment, and only the
last segment that is used may be cut short. On the way the number of the next target never
passes ten, and every filling comes to its end, with the plan made. -/
theorem sequential_fills (text : List Char) (day : Weekday) :
    let slots := (Segment.scan text).flatMap Segment.slots
    let count := min 9 slots.length
    let remaps := sequential text day
    remaps.flatMap (·.sourceSide.slots) = slots.take count ∧
    (remaps.flatMap Remap.targetPeriods).map Period.number = List.range' 1 count ∧
    (∀ remap ∈ remaps, remap.target = day ∧ remap.pairs ≠ []) ∧
    TakesInTurn (Segment.scan text) (remaps.map Remap.sourceSide) ∧
    ∀ stage, Filling.Reaches day (.between 1 [] (Segment.scan text)) stage →
      stage.next ≤ 10 ∧ Filling.Reaches day stage (.finished (count + 1) remaps) := by
  intro slots count remaps
  have placings : remaps.flatMap Remap.placings =
      (slots.take count).zip (Period.all.take count) := by
    have paired := placings_fill day Period.all (Segment.periods_ne_nil_of_mem_scan text)
    rw [List.zip_eq_zip_take_min, Nat.min_comm] at paired
    exact paired
  have nine : Period.all.length = 9 := rfl
  have even : (slots.take count).length = (Period.all.take count).length := by
    rw [List.length_take, List.length_take, nine]
    omega
  have counts : (Filling.between 1 [] (Segment.scan text)).Counts := by
    refine ⟨rfl, ?_⟩
    rw [Filling.next]
    omega
  refine ⟨?_, ?_, ?_, takesInTurn_fill day _ _, ?_⟩
  · have sources := congrArg (List.map Prod.fst) placings
    rw [List.map_flatMap, List.map_fst_zip even.le] at sources
    rw [← sources]
    exact List.flatMap_congr fun remap _ => remap.map_fst_placings.symm
  · have targets := congrArg (List.map Prod.snd) placings
    rw [List.map_flatMap, List.map_snd_zip even.ge] at targets
    have receiving : remaps.flatMap Remap.targetPeriods = Period.all.take count :=
      (List.flatMap_congr fun remap _ => remap.map_snd_placings.symm).trans targets
    have numbers : Period.all.map Period.number = List.range' 1 9 := rfl
    rw [receiving, List.map_take, numbers, List.take_range'_of_length_ge (Nat.min_le_left _ _)]
  · exact fun remap member =>
      ⟨target_of_mem_fill remap member, pairs_ne_nil_of_mem_fill day _ _ remap member⟩
  · intro stage reached
    have length : (remaps.flatMap (·.pairs)).length = count := by
      have same : (remaps.flatMap (·.pairs)).length = (remaps.flatMap Remap.placings).length := by
        rw [List.length_flatMap, List.length_flatMap]
        simp only [Remap.placings, List.length_map]
      rw [same, placings, List.length_zip, ← even, Nat.min_self, List.length_take]
      omega
    have outcome : stage.outcome day = remaps := reached.outcome_eq counts
    have ends := Filling.reaches_finished day stage (reached.counts counts)
    rw [outcome, length] at ends
    exact ⟨(reached.counts counts).le_ten, ends⟩

/-- The ninth slot is the first of two on the Wednesday, so that one is cut short and the Thursday
is left out. From inside the first segment on the number of the next target still rises to ten. -/
theorem sequential_fills_cut :
    let text := "月12345火678水12木3".toList
    let remaps := sequential text .friday
    let stage : Filling := .inside 1 [] ⟨.monday, .friday, []⟩ (Period.range 1 5)
      ((Segment.scan text).drop 1)
    Filling.Reaches .friday (.between 1 [] (Segment.scan text)) stage ∧
      remaps.map Remap.sourceSide =
        [⟨.monday, Period.range 1 5⟩, ⟨.tuesday, Period.range 6 8⟩,
          ⟨.wednesday, Period.range 1 1⟩] ∧
      (remaps.flatMap Remap.targetPeriods).map Period.number = List.range' 1 9 ∧
      Filling.Reaches .friday stage (.finished 10 remaps) := by
  intro text remaps stage
  have reached : Filling.Reaches .friday (.between 1 [] (Segment.scan text)) stage :=
    .single .opening
  have nine : min 9 ((Segment.scan text).flatMap Segment.slots).length = 9 := by decide
  obtain ⟨-, targets, -, -, ends⟩ := sequential_fills text .friday
  rw [nine] at targets ends
  exact ⟨reached, by decide, targets, (ends stage reached).2⟩

end Plan
end SchoolWeek
