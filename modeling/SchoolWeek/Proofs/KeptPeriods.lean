import Mathlib
import SchoolWeek.Proofs.DayFilling

/-! When a custom text says of a day what a short day does: that its first periods are kept and
the others go. A line may pair these periods with themselves; without lines that pair anything,
they may be those of the only segment; and without a segment, all the digits of the text. -/
namespace SchoolWeek

namespace Period

theorem length_range {last : Nat} (le_nine : last ≤ 9) : (range 1 last).length = last := by
  interval_cases last <;> rfl

end Period

namespace Remap

theorem sourceSide_keep (day : Weekday) (periods : List Period) :
    (keep day periods).sourceSide = ⟨day, periods⟩ := by
  rw [sourceSide, sourcePeriods, keep, List.map_map]
  exact congrArg (Segment.mk day) (List.map_id _)

theorem targetSide_keep (day : Weekday) (periods : List Period) :
    (keep day periods).targetSide = ⟨day, periods⟩ := by
  rw [targetSide, targetPeriods, keep, List.map_map]
  exact congrArg (Segment.mk day) (List.map_id _)

theorem keep_injective (day : Weekday) : Function.Injective (keep day) := by
  intro left right same
  have sides := congrArg sourceSide same
  rw [sourceSide_keep, sourceSide_keep] at sides
  exact (Segment.mk.inj sides).2

/-- A remap is made up of its two sides. -/
theorem eq_of_sides {left right : Remap} (sources : left.sourceSide = right.sourceSide)
    (targets : left.targetSide = right.targetSide) : left = right := by
  obtain ⟨source, sourcePeriods⟩ := Segment.mk.inj sources
  obtain ⟨target, targetPeriods⟩ := Segment.mk.inj targets
  have made := ofPeriods?_periods left
  rw [source, sourcePeriods, target, targetPeriods, ofPeriods?_periods right] at made
  exact (Option.some.inj made).symm

end Remap

namespace Mapping

/-- The two sides of the lines that name them. -/
def sidesIn (text : List Char) : List (Segment × List Segment) :=
  (text.splitOn '\n').filterMap sides?

/-- The targets have neither together nor one by one as many periods as the source. -/
def Idle (sides : Segment × List Segment) : Prop :=
  (sides.2.map (·.periods.length)).sum ≠ sides.1.periods.length ∧
    ∀ target ∈ sides.2, target.periods.length ≠ sides.1.periods.length

instance : DecidablePred Idle := fun _ => instDecidableAnd

/-- A line keeps its source if this is the only target of its length. -/
def KeepsSource (sides : Segment × List Segment) : Prop :=
  (sides.2.filter fun target => target.periods.length = sides.1.periods.length) = [sides.1]

variable {source : Segment} {targets : List Segment} {day : Weekday} {periods : List Period}

theorem targets_of_mem_sidesIn {text : List Char} (listed : (source, targets) ∈ sidesIn text) :
    targets ≠ [] ∧ ∀ target ∈ targets, target.periods ≠ [] := by
  obtain ⟨line, -, named⟩ := List.mem_filterMap.mp listed
  obtain ⟨left, right, digits, -, -, -, -, rfl, some⟩ := sides?_eq_some_iff.mp named
  exact ⟨some, Segment.periods_ne_nil_of_mem_scan _⟩

/-- Either the targets share the source or each of them gets all of it. -/
theorem deals_or_broadcasts (source : Segment) (targets : List Segment) :
    (targets.map (·.periods.length)).sum = source.periods.length ∧
        Deals source targets (pair source targets) ∨
      (targets.map (·.periods.length)).sum ≠ source.periods.length ∧
        Broadcasts source targets (pair source targets) := by
  rw [← List.length_flatMap, pair]
  split_ifs with even
  · exact .inl ⟨even, deals_deal even⟩
  · exact .inr ⟨even, broadcasts_broadcast source targets⟩

theorem pair_eq_nil_iff (some : targets ≠ []) : pair source targets = [] ↔ Idle (source, targets) := by
  rcases deals_or_broadcasts source targets with ⟨even, deals⟩ | ⟨uneven, broadcasts⟩
  · refine iff_of_false (fun none => some ?_) fun idle => idle.1 even
    rw [← deals.targets_eq, none, List.map_nil]
  · rw [← List.map_eq_nil_iff (f := Remap.targetSide), broadcasts.targets_eq,
      List.filter_eq_nil_iff, Idle, and_iff_right uneven]
    simp only [decide_eq_true_eq, Ne]

/-- Targets that together have as many periods as one of them are this one. -/
theorem eq_singleton_of_sum {target : Segment} (some : ∀ target ∈ targets, target.periods ≠ [])
    (member : target ∈ targets)
    (even : (targets.map (·.periods.length)).sum = target.periods.length) :
    targets = [target] := by
  obtain ⟨before, after, rfl⟩ := List.append_of_mem member
  have none {others : List Segment} (within : others ⊆ before ++ target :: after)
      (zero : (others.map (·.periods.length)).sum = 0) : others = [] := by
    refine List.eq_nil_iff_forall_not_mem.mpr fun other listed => some other (within listed) ?_
    exact List.eq_nil_of_length_eq_zero
      (List.sum_eq_zero_iff.mp zero _ (List.mem_map_of_mem listed))
  rw [List.map_append, List.map_cons, List.sum_append, List.sum_cons] at even
  rw [none (List.subset_append_left _ _) (by omega), none (fun other later =>
    List.mem_append_right _ (List.mem_cons_of_mem _ later)) (by omega), List.nil_append]

/-- What the targets receive, one after the other, is the source alone if the line keeps it. -/
theorem targetSides_pair_iff (some : ∀ target ∈ targets, target.periods ≠ []) :
    (pair source targets).map Remap.targetSide = [source] ↔ KeepsSource (source, targets) := by
  rcases deals_or_broadcasts source targets with ⟨even, deals⟩ | ⟨-, broadcasts⟩
  · rw [deals.targets_eq, KeepsSource]
    constructor
    · rintro rfl
      exact List.filter_cons_of_pos (decide_eq_true rfl)
    · intro keeps
      have member : source ∈ [source] := List.mem_singleton_self source
      rw [← keeps] at member
      exact eq_singleton_of_sum some (List.mem_filter.mp member).1 even
  · rw [broadcasts.targets_eq, KeepsSource]

theorem sourceSide_of_pair {remap : Remap} (only : pair source targets = [remap]) :
    remap.sourceSide = source := by
  rcases deals_or_broadcasts source targets with ⟨-, deals⟩ | ⟨-, broadcasts⟩
  · rw [only] at deals
    have day := deals.source_eq remap (List.mem_singleton_self remap)
    have periods := deals.periods_eq
    rw [List.flatMap_singleton] at periods
    rw [Remap.sourceSide, day, periods]
  · rw [only] at broadcasts
    exact broadcasts.source_eq remap (List.mem_singleton_self remap)

theorem pair_eq_keep_iff (some : ∀ target ∈ targets, target.periods ≠ []) :
    pair source targets = [Remap.keep day periods] ↔
      source = ⟨day, periods⟩ ∧ KeepsSource (source, targets) := by
  constructor
  · intro kept
    have source_eq := sourceSide_of_pair kept
    rw [Remap.sourceSide_keep] at source_eq
    refine ⟨source_eq.symm, (targetSides_pair_iff some).mp ?_⟩
    rw [kept, List.map_singleton, Remap.targetSide_keep, source_eq]
  · rintro ⟨rfl, keeps⟩
    obtain ⟨remap, only, target_eq⟩ :=
      List.map_eq_singleton_iff.mp ((targetSides_pair_iff some).mpr keeps)
    have source_eq := sourceSide_of_pair only
    have kept : remap = Remap.keep day periods := Remap.eq_of_sides
      (source_eq.trans (Remap.sourceSide_keep day periods).symm)
      (target_eq.trans (Remap.targetSide_keep day periods).symm)
    rw [only, kept]

theorem read_eq_nil_iff {text : List Char} :
    read text = [] ↔ ∀ sides ∈ sidesIn text, Idle sides := by
  rw [read_eq, ← sidesIn, List.flatMap_eq_nil_iff]
  exact forall₂_congr fun sides listed => pair_eq_nil_iff (targets_of_mem_sidesIn listed).1

theorem flatMap_eq_singleton_iff {α β : Type} {f : α → List β} {list : List α} {item : β} :
    list.flatMap f = [item] ↔ ∃ before here after, list = before ++ here :: after ∧
      f here = [item] ∧ ∀ other ∈ before ++ after, f other = [] := by
  constructor
  · intro only
    rw [List.flatMap_def] at only
    obtain ⟨nothing, nothingElse, whole, idleBefore, idleAfter⟩ :=
      List.flatten_eq_singleton_iff.mp only
    obtain ⟨before, rest, rfl, rfl, behind⟩ := List.map_eq_append_iff.mp whole
    obtain ⟨here, after, rfl, given, rfl⟩ := List.map_eq_cons_iff.mp behind
    refine ⟨before, here, after, rfl, given, fun other listed => ?_⟩
    rcases List.mem_append.mp listed with early | late
    · exact idleBefore _ (List.mem_map_of_mem early)
    · exact idleAfter _ (List.mem_map_of_mem late)
  · rintro ⟨before, here, after, rfl, given, idle⟩
    have none {part : List α} (inside : part ⊆ before ++ after) : part.flatMap f = [] :=
      List.flatMap_eq_nil_iff.mpr fun other listed => idle other (inside listed)
    rw [List.flatMap_append, List.flatMap_cons, given, none (List.subset_append_left _ _),
      none (List.subset_append_right _ _)]
    rfl

/-- A text of lines keeps some periods if one of its lines does and the others are idle. -/
theorem read_eq_keep_iff {text : List Char} :
    read text = [Remap.keep day periods] ↔
      ∃ before targets after, sidesIn text = before ++ (⟨day, periods⟩, targets) :: after ∧
        KeepsSource (⟨day, periods⟩, targets) ∧ ∀ sides ∈ before ++ after, Idle sides := by
  have idle_iff {before after : List (Segment × List Segment)} {here : Segment × List Segment}
      (whole : sidesIn text = before ++ here :: after) :
      (∀ sides ∈ before ++ after, pair sides.1 sides.2 = []) ↔
        ∀ sides ∈ before ++ after, Idle sides := by
    refine forall₂_congr fun sides other => ?_
    have listed : sides ∈ sidesIn text := by
      rw [whole]
      exact ((List.sublist_cons_self here after).append_left before).subset other
    exact pair_eq_nil_iff (targets_of_mem_sidesIn listed).1
  have kept_iff {before after : List (Segment × List Segment)} {here : Segment × List Segment}
      (whole : sidesIn text = before ++ here :: after) :
      pair here.1 here.2 = [Remap.keep day periods] ↔ here.1 = ⟨day, periods⟩ ∧ KeepsSource here := by
    have listed : here ∈ sidesIn text := by
      rw [whole]
      exact List.mem_append_right before List.mem_cons_self
    exact pair_eq_keep_iff (targets_of_mem_sidesIn listed).2
  rw [read_eq, ← sidesIn, flatMap_eq_singleton_iff]
  constructor
  · rintro ⟨before, ⟨source, targets⟩, after, whole, given, idle⟩
    obtain ⟨rfl, keeps⟩ := (kept_iff whole).mp given
    exact ⟨before, targets, after, whole, keeps, (idle_iff whole).mp idle⟩
  · rintro ⟨before, targets, after, whole, keeps, idle⟩
    exact ⟨before, _, after, whole, (kept_iff whole).mpr ⟨rfl, keeps⟩, (idle_iff whole).mpr idle⟩

end Mapping

namespace Plan

variable {text : List Char} {day : Weekday}

/-- The first of the readings that gives anything is the one that counts. -/
theorem ofNotation_eq_iff {remaps : List Remap} (some : remaps ≠ []) :
    ofNotation text day = remaps ↔
      Mapping.read text = remaps ∨
        Mapping.read text = [] ∧ (sequential text day = remaps ∨
          sequential text day = [] ∧ bareDigits text day = remaps) := by
  rw [ofNotation]
  cases Mapping.read text with
  | cons remap later => simp
  | nil =>
    cases sequential text day with
    | cons remap later => simp [some.symm]
    | nil => simp [some.symm]

theorem fill_eq_nil_iff {free : List Period} {segments : List Segment}
    (named : ∀ segment ∈ segments, segment.periods ≠ []) :
    fill day free segments = [] ↔ segments = [] ∨ free = [] := by
  cases segments with
  | nil => exact iff_of_true rfl (.inl rfl)
  | cons segment segments =>
    have written := named segment List.mem_cons_self
    rw [fill_cons, goOn, ite_eq_left_iff, List.zip_eq_nil_iff]
    simp [written]

theorem sequential_eq_nil_iff : sequential text day = [] ↔ Segment.scan text = [] := by
  rw [sequential, fill_eq_nil_iff (Segment.periods_ne_nil_of_mem_scan text)]
  exact or_iff_left (by decide)

/-- Short of all nine periods, a segment placed from the first period on is kept where it is
if it names just the first periods. -/
theorem zip_all_eq_keep_iff {segment : Segment} {last : Nat} (short : last < 9) :
    (⟨segment.day, day, segment.periods.zip Period.all⟩ : Remap) =
        Remap.keep day (Period.range 1 last) ↔
      segment = ⟨day, Period.range 1 last⟩ := by
  constructor
  · intro same
    have day_eq : segment.day = day := congrArg Remap.source same
    have length : (segment.periods.zip Period.all).length = last := by
      have counted := congrArg (·.pairs.length) same
      rw [Remap.keep, List.length_map, Period.length_range short.le] at counted
      exact counted
    -- fewer than nine are placed, so the segment has no more than these
    have enough : segment.periods.length ≤ Period.all.length := by
      have nine : Period.all.length = 9 := rfl
      rw [List.length_zip] at length
      omega
    have sources := congrArg Remap.sourceSide same
    rw [Remap.sourceSide_keep, Remap.sourceSide, Remap.sourcePeriods,
      List.map_fst_zip enough] at sources
    exact sources
  · rintro rfl
    interval_cases last <;> rfl

theorem sequential_eq_keep_iff {last : Nat} (first : 1 ≤ last) (short : last < 9) :
    sequential text day = [Remap.keep day (Period.range 1 last)] ↔
      Segment.scan text = [⟨day, Period.range 1 last⟩] := by
  constructor
  · intro kept
    have named := Segment.periods_ne_nil_of_mem_scan text
    rw [sequential] at kept
    cases scanned : Segment.scan text with
    | nil =>
      rw [scanned] at kept
      cases kept
    | cons segment rest =>
      rw [scanned] at kept named
      rw [fill_cons, goOn] at kept
      split_ifs at kept
      obtain ⟨same, ended⟩ := List.cons.inj kept
      have segment_eq := (zip_all_eq_keep_iff short).mp same
      -- some periods are left, and another segment would be given them
      have left : Period.all.drop (segment.periods.zip Period.all).length ≠ [] := by
        have nine : Period.all.length = 9 := rfl
        rw [Ne, List.drop_eq_nil_iff, List.length_zip, segment_eq, Period.length_range short.le]
        omega
      have others := fun other later => named other (List.mem_cons_of_mem segment later)
      rw [segment_eq, ((fill_eq_nil_iff others).mp ended).resolve_right left]
  · intro scanned
    rw [sequential, scanned]
    interval_cases last <;> rfl

theorem bareDigits_eq_keep_iff {periods : List Period} (some : periods ≠ []) :
    bareDigits text day = [Remap.keep day periods] ↔ periodsIn text = periods := by
  rw [bareDigits]
  cases periodsIn text with
  | nil => simp [some.symm]
  | cons period rest =>
    dsimp only
    rw [List.singleton_inj, (Remap.keep_injective day).eq_iff]

/-- As a notation the text says of the day that these periods are kept, and nothing else. -/
inductive Keeps (text : List Char) (day : Weekday) (periods : List Period) : Prop
  | inLine {before after : List (Segment × List Segment)} {targets : List Segment} :
    Mapping.sidesIn text = before ++ (⟨day, periods⟩, targets) :: after →
    Mapping.KeepsSource (⟨day, periods⟩, targets) →
    (∀ sides ∈ before ++ after, Mapping.Idle sides) → Keeps text day periods
  | inSegment : (∀ sides ∈ Mapping.sidesIn text, Mapping.Idle sides) →
    Segment.scan text = [⟨day, periods⟩] → Keeps text day periods
  | inDigits : (∀ sides ∈ Mapping.sidesIn text, Mapping.Idle sides) →
    Segment.scan text = [] → periodsIn text = periods → Keeps text day periods

theorem ofNotation_eq_keep_iff {last : Nat} (first : 1 ≤ last) (short : last < 9) :
    ofNotation text day = [Remap.keep day (Period.range 1 last)] ↔
      Keeps text day (Period.range 1 last) := by
  have some : Period.range 1 last ≠ [] := by
    refine List.ne_nil_of_length_pos ?_
    rw [Period.length_range short.le]
    exact first
  rw [ofNotation_eq_iff (List.cons_ne_nil _ _), Mapping.read_eq_keep_iff, Mapping.read_eq_nil_iff,
    sequential_eq_keep_iff first short, sequential_eq_nil_iff, bareDigits_eq_keep_iff some]
  constructor
  · rintro (⟨before, targets, after, whole, keeps, idle⟩ | ⟨idle, scanned | ⟨scanned, digits⟩⟩)
    · exact .inLine whole keeps idle
    · exact .inSegment idle scanned
    · exact .inDigits idle scanned digits
  · rintro (⟨whole, keeps, idle⟩ | ⟨idle, scanned⟩ | ⟨idle, scanned, digits⟩)
    · exact .inl ⟨_, _, _, whole, keeps, idle⟩
    · exact .inr ⟨idle, .inl scanned⟩
    · exact .inr ⟨idle, .inr ⟨scanned, digits⟩⟩

end Plan
end SchoolWeek
