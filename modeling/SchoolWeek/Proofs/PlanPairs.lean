import Mathlib
import SchoolWeek.Pattern.Plan
import SchoolWeek.Remap.Row

/-! No remap of a plan is empty: a segment without periods is dropped when it is scanned,
and a remap without pairs is never made of the others. So a plan that names any remap also
names a row, and its record says as much as the plan itself. -/
namespace SchoolWeek

namespace Segment

theorem scanFrom_nil (current : Option Segment) : scanFrom current [] = finished current := by
  cases current <;> rfl

/-- A glyph opens a segment, a digit goes into the open one, and the rest is passed over. -/
theorem scanFrom_cons (current : Option Segment) (character : Char) (rest : List Char) :
    scanFrom current (character :: rest) =
      match Weekday.ofGlyph? character with
      | some day => finished current ++ scanFrom (some ⟨day, []⟩) rest
      | none =>
        match Period.ofDigit? character with
        | some period =>
          scanFrom (current.map fun segment =>
            { segment with periods := segment.periods ++ [period] }) rest
        | none => scanFrom current rest := by
  cases current <;> rfl

/-- By recursion on the text; an open segment counts when it is finished. -/
theorem periods_ne_nil_of_mem_scanFrom (current : Option Segment) (text : List Char) :
    ∀ segment ∈ scanFrom current text, segment.periods ≠ [] := by
  have finished_ne_nil (current : Option Segment) :
      ∀ segment ∈ finished current, segment.periods ≠ [] := by
    intro segment member
    unfold finished at member
    split at member
    · cases member
    · split_ifs at member with blank
      · cases member
      · rw [List.mem_singleton.mp member]
        simpa using blank
  induction text generalizing current with
  | nil =>
    rw [scanFrom_nil]
    exact finished_ne_nil current
  | cons character rest ih =>
    rw [scanFrom_cons]
    split
    · intro segment member
      rcases List.mem_append.mp member with done | later
      · exact finished_ne_nil current segment done
      · exact ih _ segment later
    · split
      · exact ih _
      · exact ih _

theorem periods_ne_nil_of_mem_scan (text : List Char) :
    ∀ segment ∈ scan text, segment.periods ≠ [] := periods_ne_nil_of_mem_scanFrom none text

end Segment

namespace Mapping

theorem zip_ne_nil {α β : Type} {left : List α} {right : List β} (leftSome : left ≠ [])
    (rightSome : right ≠ []) : left.zip right ≠ [] := by
  rw [Ne, List.zip_eq_nil_iff]
  rintro (none | none)
  · exact leftSome none
  · exact rightSome none

/-- By recursion on the targets: as the counts agree, there is enough for each of them. -/
theorem pairs_ne_nil_of_mem_deal {source : Weekday} {periods : List Period}
    {targets : List Segment} (some : ∀ target ∈ targets, target.periods ≠ [])
    (enough : (targets.flatMap (·.periods)).length = periods.length) :
    ∀ remap ∈ deal source periods targets, remap.pairs ≠ [] := by
  induction targets generalizing periods with
  | nil => exact fun remap member => absurd member List.not_mem_nil
  | cons target targets ih =>
    have first := List.length_pos_of_ne_nil (some target List.mem_cons_self)
    rw [List.flatMap_cons, List.length_append] at enough
    intro remap member
    rcases List.mem_cons.mp member with rfl | later
    · refine zip_ne_nil (List.ne_nil_of_length_pos ?_) (some target List.mem_cons_self)
      omega
    · refine ih (fun other listed => some other (List.mem_cons_of_mem target listed)) ?_ remap later
      rw [List.length_drop]
      omega

theorem pairs_ne_nil_of_mem_broadcast {source : Segment} {targets : List Segment}
    (some : ∀ target ∈ targets, target.periods ≠ []) :
    ∀ remap ∈ broadcast source targets, remap.pairs ≠ [] := by
  intro remap member
  obtain ⟨target, kept, rfl⟩ := List.mem_map.mp member
  obtain ⟨listed, sameLength⟩ := List.mem_filter.mp kept
  have long := List.length_pos_of_ne_nil (some target listed)
  have length : target.periods.length = source.periods.length := by simpa using sameLength
  exact zip_ne_nil (List.ne_nil_of_length_pos (length ▸ long)) (some target listed)

theorem pairs_ne_nil_of_mem_read (text : List Char) :
    ∀ remap ∈ read text, remap.pairs ≠ [] := by
  intro remap member
  obtain ⟨line, _, named⟩ := List.mem_flatMap.mp member
  unfold readLine at named
  split at named
  · cases named
  · split at named
    · cases named
    · rename_i source _
      have targets := Segment.periods_ne_nil_of_mem_scan
      unfold pair at named
      split_ifs at named with enough
      · exact pairs_ne_nil_of_mem_deal (targets _) enough remap named
      · exact pairs_ne_nil_of_mem_broadcast (targets _) remap named

end Mapping

namespace Plan

theorem pairs_ne_nil_of_mem_fill (day : Weekday) (free : List Period) (segments : List Segment) :
    ∀ remap ∈ fill day free segments, remap.pairs ≠ [] := by
  induction segments generalizing free with
  | nil => exact fun remap member => absurd member List.not_mem_nil
  | cons segment segments ih =>
    intro remap member
    unfold fill at member
    split at member
    · cases member
    · rename_i pairs some
      rcases List.mem_cons.mp member with rfl | later
      · exact some
      · exact ih _ remap later

theorem pairs_ne_nil_of_mem_ofNotation (text : List Char) (day : Weekday) :
    ∀ remap ∈ ofNotation text day, remap.pairs ≠ [] := by
  unfold ofNotation
  split
  · split
    · unfold bareDigits
      split
      · exact fun remap member => absurd member List.not_mem_nil
      · rename_i periods some
        intro remap member
        rw [List.mem_singleton.mp member]
        simpa [Remap.keep] using some
    · exact pairs_ne_nil_of_mem_fill day _ _
  · exact Mapping.pairs_ne_nil_of_mem_read text

theorem pairs_ne_nil_of_mem_template {template : Template} (long : 0 < template.lastPeriod)
    (day : Weekday) : ∀ remap ∈ template.remaps day, remap.pairs ≠ [] := by
  intro remap member
  rw [List.mem_singleton.mp member]
  have first : (⟨1, by decide, by decide⟩ : Period) ∈ Period.range 1 template.lastPeriod :=
    List.mem_filter.mpr ⟨Period.mem_all _, by simpa using Nat.succ_le_of_lt long⟩
  exact List.ne_nil_of_mem (List.mem_map_of_mem first)

/-- Every remap of a plan pairs some periods. -/
theorem pairs_ne_nil (name : List Char) (day : Weekday) :
    ∀ remap ∈ ofPatternName name day, remap.pairs ≠ [] := by
  unfold ofPatternName ofKind
  split
  · exact fun remap member => absurd member List.not_mem_nil
  · exact pairs_ne_nil_of_mem_template (by decide) day
  · exact pairs_ne_nil_of_mem_template (by decide) day
  · exact pairs_ne_nil_of_mem_template (by decide) day
  · exact pairs_ne_nil_of_mem_template (by decide) day
  · exact pairs_ne_nil_of_mem_ofNotation name day

/-- So does every remap that an application would store. -/
theorem pairs_ne_nil_of_mem_preview (name : String) (day : Weekday) (custom? : Option String) :
    ∀ remap ∈ preview name day custom?, remap.pairs ≠ [] := by
  unfold preview
  split
  · exact pairs_ne_nil_of_mem_ofNotation _ day
  · exact pairs_ne_nil name.toList day

theorem flatten_eq_nil_iff_of_pairs {remaps : List Remap}
    (paired : ∀ remap ∈ remaps, remap.pairs ≠ []) (patternName : String) :
    Remap.flatten remaps patternName = [] ↔ remaps = [] := by
  rw [Remap.flatten, List.flatMap_eq_nil_iff]
  constructor
  · intro none
    refine List.eq_nil_iff_forall_not_mem.mpr fun remap member => ?_
    exact paired remap member (List.map_eq_nil_iff.mp (none remap member))
  · intro none remap member
    rw [none] at member
    cases member

theorem flatten_eq_nil_iff (name : List Char) (day : Weekday) (patternName : String) :
    Remap.flatten (ofPatternName name day) patternName = [] ↔ ofPatternName name day = [] :=
  flatten_eq_nil_iff_of_pairs (pairs_ne_nil name day) patternName

end Plan
end SchoolWeek
