import Mathlib
import SchoolWeek.Backend.Memory
import SchoolWeek.Pattern.Plan
import SchoolWeek.Proofs.PlanPairs

/-! Positions and bytes. Some lists are cut at positions, some numbers are counted in a byte
and some values are looked up in a table by their number. Each such computation is written out
here with its positions and bytes, so that it fails where one of them is out of bounds, and is
shown to give in every case what the plan, the notation or the backend gives. -/
namespace SchoolWeek

/-- A sum that has to fit into a byte. -/
def addByte? (left right : Nat) : Option Nat :=
  if left + right < 256 then some (left + right) else none

/-- A difference of bytes that must not be negative. -/
def subByte? (left right : Nat) : Option Nat := if right ≤ left then some (left - right) else none

/-- The part of a list between two positions in it. -/
def slice? {α : Type} (items : List α) (start stop : Nat) : Option (List α) :=
  if start ≤ stop ∧ stop ≤ items.length then some ((items.drop start).take (stop - start))
  else none

namespace Mapping

/-- Deals the source periods out from a position on: each target takes the part from there
that is as long as itself. -/
def dealFrom? (source : Segment) : Nat → List Segment → Option (List Remap)
  | _, [] => some []
  | offset, target :: targets => do
    let stop := offset + target.periods.length
    let originals ← slice? source.periods offset stop
    let remaps ← dealFrom? source stop targets
    return (Remap.ofPeriods? source.day target.day originals target.periods).toList ++ remaps

def pair? (source : Segment) (targets : List Segment) : Option (List Remap) :=
  if (targets.flatMap (·.periods)).length = source.periods.length then dealFrom? source 0 targets
  else some (broadcast source targets)

def readLine? (line : List Char) : Option (List Remap) :=
  match Text.cut? arrow line with
  | none => some []
  | some (left, right) =>
    match Segment.read? (Text.trim left) with
    | none => some []
    | some source => pair? source (Segment.scan (Text.trim right))

def read? (text : List Char) : Option (List Remap) :=
  ((Text.split (· == '\n') text).mapM fun line => readLine? (Text.trim line)).map List.flatten

/-- By recursion on the targets: while they hold as many periods as are left from the position
on, the next part lies within the source. -/
theorem dealFrom?_eq_deal {source : Segment} {offset : Nat} {targets : List Segment}
    (enough : offset + (targets.flatMap (·.periods)).length = source.periods.length) :
    dealFrom? source offset targets =
      some (deal source.day (source.periods.drop offset) targets) := by
  induction targets generalizing offset with
  | nil => rfl
  | cons target targets ih =>
    rw [List.flatMap_cons, List.length_append, ← Nat.add_assoc] at enough
    have part : slice? source.periods offset (offset + target.periods.length) =
        some ((source.periods.drop offset).take target.periods.length) := by
      rw [slice?, if_pos ⟨Nat.le_add_right _ _, by omega⟩, Nat.add_sub_cancel_left]
    have long : ((source.periods.drop offset).take target.periods.length).length =
        target.periods.length := by
      rw [List.length_take, List.length_drop]
      omega
    have least : min (source.periods.drop offset).length target.periods.length =
        target.periods.length := by
      rw [List.length_drop]
      omega
    have paired : (source.periods.drop offset).zip target.periods =
        ((source.periods.drop offset).take target.periods.length).zip target.periods := by
      rw [List.zip_eq_zip_take_min, least, List.take_length]
    rw [dealFrom?, part, Option.bind_eq_bind, Option.bind_some, ih enough, Option.bind_eq_bind,
      Option.bind_some, Remap.ofPeriods?, if_pos long, deal, paired, List.drop_drop]
    rfl

theorem pair?_eq_pair (source : Segment) (targets : List Segment) :
    pair? source targets = some (pair source targets) := by
  unfold pair? pair
  split_ifs with enough
  · exact dealFrom?_eq_deal (by omega)
  · rfl

theorem readLine?_eq_readLine (line : List Char) : readLine? line = some (readLine line) := by
  rw [readLine?, readLine]
  cases Text.cut? arrow line with
  | none => rfl
  | some sides =>
    dsimp only
    cases Segment.read? (Text.trim sides.1) with
    | none => rfl
    | some source => exact pair?_eq_pair source _

/-- The positions at which a source is cut lie within it, whatever the text says. -/
theorem read?_eq_read (text : List Char) : read? text = some (read text) := by
  rw [read?, funext fun line => readLine?_eq_readLine (Text.trim line), read, List.flatMap_def]
  exact congrArg (Option.map List.flatten) List.mapM_pure

end Mapping

namespace Segment

theorem length_finished (current : Option Segment) :
    ((finished current).flatMap (·.periods)).length =
      (current.elim [] (·.periods)).length := by
  cases current with
  | none => rfl
  | some segment =>
    rw [finished, Option.elim_some]
    split_ifs with blank
    · rw [List.isEmpty_iff.mp blank]
      rfl
    · rw [List.flatMap_singleton]

/-- The periods of an open segment and of those after it are digits of the text. -/
theorem length_periods_scanFrom_le (current : Option Segment) (text : List Char) :
    ((scanFrom current text).flatMap (·.periods)).length ≤
      ((finished current).flatMap (·.periods)).length + text.length := by
  induction text generalizing current with
  | nil =>
    rw [scanFrom_nil]
    exact Nat.le_add_right _ _
  | cons character rest ih =>
    rw [scanFrom_cons, List.length_cons]
    split
    · rename_i day _
      have later := ih (some ⟨day, []⟩)
      have nothing : finished (some ⟨day, []⟩) = [] := rfl
      rw [nothing] at later
      rw [List.flatMap_append, List.length_append]
      simp only [List.flatMap_nil, List.length_nil] at later
      omega
    · split
      · rename_i period _
        have later := ih (current.map fun segment =>
          { segment with periods := segment.periods ++ [period] })
        have longer : ((finished (current.map fun segment =>
            { segment with periods := segment.periods ++ [period] })).flatMap (·.periods)).length ≤
              ((finished current).flatMap (·.periods)).length + 1 := by
          rw [length_finished, length_finished]
          cases current <;> simp
        omega
      · have later := ih current
        omega

/-- A text does not have more periods than characters. -/
theorem length_periods_scan_le (text : List Char) :
    ((scan text).flatMap (·.periods)).length ≤ text.length := by
  have counted := length_periods_scanFrom_le none text
  rwa [finished, List.flatMap_nil, List.length_nil, Nat.zero_add] at counted

end Segment

namespace Plan

/-- Gives the periods targets in turn, counting them in a byte from a number on, until the
number is that of no period. -/
def takeTargets? : List Period → Nat → Option (List (Period × Period) × Nat)
  | [], next => some ([], next)
  | period :: periods, next =>
    match Period.ofNat? next with
    | none => some ([], next)
    | some target => do
      let following ← addByte? next 1
      let (pairs, next) ← takeTargets? periods following
      return ((period, target) :: pairs, next)

/-- Fills the day with the segments from the target with this number on. -/
def fillFrom? (day : Weekday) : Nat → List Segment → Option (List Remap)
  | _, [] => some []
  | next, segment :: segments => do
    let (pairs, next) ← takeTargets? segment.periods next
    if pairs.isEmpty then return []
    let remaps ← fillFrom? day next segments
    return ⟨segment.day, day, pairs⟩ :: remaps

def sequential? (text : List Char) (day : Weekday) : Option (List Remap) :=
  fillFrom? day 1 (Segment.scan text)

/-- The periods from one on. -/
theorem drop_all_of_some {number : Nat} {period : Period}
    (found : Period.ofNat? number = some period) :
    Period.all.drop (number - 1) = period :: Period.all.drop number := by
  obtain ⟨index, one_le, le_nine⟩ := period
  obtain rfl : index = number := Period.ofNat?_eq_some_iff.mp found
  interval_cases index <;> rfl

theorem drop_all_of_none {number : Nat} (positive : 1 ≤ number)
    (missing : Period.ofNat? number = none) : Period.all.drop (number - 1) = [] := by
  have outside : ¬ (1 ≤ number ∧ number ≤ 9) := fun inside => by
    rw [Period.ofNat?, dif_pos inside] at missing
    cases missing
  have length : Period.all.length = 9 := rfl
  exact List.drop_eq_nil_of_le (by omega)

/-- By recursion on the periods: the number stays a byte, as it never passes the tenth. -/
theorem takeTargets?_eq_zip (periods : List Period) {next : Nat} (positive : 1 ≤ next)
    (small : next ≤ 10) :
    let pairs := periods.zip (Period.all.drop (next - 1))
    takeTargets? periods next = some (pairs, next + pairs.length) ∧ next + pairs.length ≤ 10 := by
  induction periods generalizing next with
  | nil => exact ⟨rfl, small⟩
  | cons period periods ih =>
    cases found : Period.ofNat? next with
    | none =>
      rw [drop_all_of_none positive found, takeTargets?, found]
      exact ⟨rfl, small⟩
    | some target =>
      have number := Period.ofNat?_eq_some_iff.mp found
      have le_nine := target.le_nine
      have byte : addByte? next 1 = some (next + 1) := if_pos (by omega)
      obtain ⟨rest, bound⟩ := ih (Nat.le_add_left 1 next) (by omega)
      rw [Nat.add_sub_cancel] at rest bound
      have counted : next + ((period, target) :: periods.zip (Period.all.drop next)).length =
          next + 1 + (periods.zip (Period.all.drop next)).length := by
        rw [List.length_cons]
        omega
      rw [drop_all_of_some found, List.zip_cons_cons]
      refine ⟨?_, counted.trans_le bound⟩
      rw [takeTargets?, found, counted]
      dsimp only
      rw [byte, Option.bind_eq_bind, Option.bind_some, rest]
      rfl

/-- By recursion on the segments, each of which goes on where the one before it stopped. -/
theorem fillFrom?_eq_fill (day : Weekday) {next : Nat} {segments : List Segment}
    (positive : 1 ≤ next) (small : next ≤ 10) :
    fillFrom? day next segments = some (fill day (Period.all.drop (next - 1)) segments) := by
  induction segments generalizing next with
  | nil => rfl
  | cons segment segments ih =>
    obtain ⟨taken, bound⟩ := takeTargets?_eq_zip segment.periods positive small
    rw [fillFrom?, taken, fill, Option.bind_eq_bind, Option.bind_some]
    cases pairs : segment.periods.zip (Period.all.drop (next - 1)) with
    | nil => rfl
    | cons pair rest =>
      rw [pairs] at bound
      have later := ih (Nat.le_add_right_of_le positive) bound
      have following : Period.all.drop (next + (pair :: rest).length - 1) =
          (Period.all.drop (next - 1)).drop (pair :: rest).length := by
        rw [List.drop_drop]
        congr 1
        omega
      dsimp only
      rw [later, following]
      rfl

theorem sequential?_eq_sequential (text : List Char) (day : Weekday) :
    sequential? text day = some (sequential text day) := fillFrom?_eq_fill day le_rfl (by decide)

end Plan

/-- The glyphs of the days, Monday's first. -/
def Weekday.glyphs : List Char := ['月', '火', '水', '木', '金', '土', '日']

namespace Memory

/-- The dates of the records in a range, which must not end before it begins. -/
def datesIn? (memory : Memory) (first last : Date) : Option (List Date) :=
  if last.Before first then none
  else some ((memory.records.map Record.date).filter fun date =>
    !(date.Before first) && !(last.Before date))

/-- The range is asked for only if it does not end before it begins. -/
def datesBetween? (memory : Memory) (first last : Date) : Option (List Date) :=
  if last.Before first then some [] else memory.datesIn? first last

end Memory

/-- Whatever is read, every position and every byte that the computation uses is in bounds. -/
structure InBounds : Prop where
  /-- Where the parts of a source are cut out. -/
  mapping (text : List Char) : Mapping.read? text = some (Mapping.read text)
  /-- How many periods are counted in the targets of a line. -/
  total (text : List Char) : ((Segment.scan text).flatMap (·.periods)).length ≤ text.length
  /-- The byte in which the targets are counted. -/
  sequential (text : List Char) (day : Weekday) :
    Plan.sequential? text day = some (Plan.sequential text day)
  glyph (day : Weekday) : Weekday.glyphs[day.mondayIndex]? = some day.glyph
  toSunday (day : Weekday) : (addByte? day.mondayIndex 1).map (· % 7) = some day.sundayIndex
  toMonday (day : Weekday) : (addByte? day.sundayIndex 6).map (· % 7) = some day.mondayIndex
  digit {character : Char} : '1' ≤ character → character ≤ '9' → ∃ period,
    subByte? character.toNat '0'.toNat = some period.number ∧
      Period.ofDigit? character = some period
  dates (memory : Memory) (first last : Date) :
    memory.datesBetween? first last = some (memory.datesBetween first last)

theorem inBounds : InBounds where
  mapping := Mapping.read?_eq_read
  total := Segment.length_periods_scan_le
  sequential := Plan.sequential?_eq_sequential
  glyph day := by cases day <;> rfl
  toSunday day := by cases day <;> rfl
  toMonday day := by cases day <;> rfl
  digit {character} := by
    intro low high
    have low : '0'.toNat + 1 ≤ character.toNat := low
    have high : character.toNat ≤ '0'.toNat + 9 := high
    refine ⟨⟨character.toNat - '0'.toNat, by omega, by omega⟩, if_pos (by omega), ?_⟩
    exact Period.ofNat?_eq_some_iff.mpr rfl
  dates memory first last := by
    rw [Memory.datesBetween?, Memory.datesIn?]
    split_ifs with backward
    · refine congrArg some (List.filter_eq_nil_iff.mpr fun date member inside => ?_).symm
      rw [Bool.and_eq_true, Bool.not_eq_true', Bool.not_eq_true', decide_eq_false_iff_not,
        decide_eq_false_iff_not] at inside
      unfold Date.Before at *
      omega
    · rfl

end SchoolWeek
