import Mathlib
import SchoolWeek.Proofs.BlankEdges

/-! Remaps written as mapping lines and read again. The lines part where they were put
together, the sides part at the arrow, and both sides are segments of the same length, so
each line comes back as the remap it was. Only a remap without pairs, which leaves a bare
glyph on either side, is not to be had back. -/
namespace SchoolWeek

namespace Text

theorem split_eq_splitOnP (isSeparator : Char → Bool) (text : List Char) :
    split isSeparator text = text.splitOnP isSeparator := by
  induction text with
  | nil => rfl
  | cons character rest ih =>
    obtain ⟨part, parts, before, after⟩ := split_cons isSeparator character rest
    rw [after, List.splitOnP_cons_eq_if_modifyHead, ← ih, before]
    rfl

/-- Parts without the separator come apart as they were put together. -/
theorem split_intercalate {separator : Char} {parts : List (List Char)}
    (absent : ∀ part ∈ parts, separator ∉ part) (some : parts ≠ []) :
    split (· == separator) ([separator].intercalate parts) = parts := by
  rw [split_eq_splitOnP, ← List.splitOn_eq_splitOnP]
  exact List.splitOn_intercalate separator absent some

theorem cut?_append {separator : Char} {before : List Char} (after : List Char)
    (absent : separator ∉ before) :
    cut? separator (before ++ separator :: after) = some (before, after) := by
  induction before with
  | nil => simp [cut?]
  | cons first rest ih =>
    have different : first ≠ separator := fun same => absent (same ▸ List.mem_cons_self)
    have elsewhere : separator ∉ rest := fun member => absent (List.mem_cons_of_mem _ member)
    rw [List.cons_append, cut?, if_neg different, ih elsewhere]
    rfl

theorem trim_of_visible {text : List Char} (visible : ∀ character ∈ text, isBlank character = false) :
    trim text = text := by
  have whole : trimStart text = text := by
    refine List.dropWhile_eq_self_iff.mpr fun long => ?_
    simp [visible _ (List.getElem_mem long)]
  rw [trim, whole, trimEnd_eq]
  refine List.rdropWhile_eq_self_iff.mpr fun written => ?_
  simp [visible _ (List.getLast_mem written)]

end Text

namespace Segment

/-- The characters that segments are written in. -/
def alphabet : List Char := Weekday.all.map Weekday.glyph ++ Period.all.map Period.digit

theorem mem_alphabet_of_mem_toChars {segment : Segment} {character : Char}
    (member : character ∈ toChars segment) : character ∈ alphabet := by
  rw [toChars, List.mem_cons] at member
  rcases member with rfl | digit
  · have listed : segment.day ∈ Weekday.all := by cases segment.day <;> decide
    exact List.mem_append_left _ (List.mem_map_of_mem listed)
  · obtain ⟨period, -, rfl⟩ := List.mem_map.mp digit
    exact List.mem_append_right _ (List.mem_map_of_mem (Period.mem_all period))

theorem visible_of_mem_alphabet {character : Char} (member : character ∈ alphabet) :
    Text.isBlank character = false := by
  refine Bool.eq_false_iff.mpr fun isBlank => ?_
  rcases List.mem_append.mp member with glyph | digit
  · obtain ⟨day, -, rfl⟩ := List.mem_map.mp glyph
    have named := Weekday.ofGlyph?_glyph day
    rw [Weekday.ofGlyph?_blank isBlank] at named
    cases named
  · obtain ⟨period, -, rfl⟩ := List.mem_map.mp digit
    have named := Period.ofDigit?_digit period
    rw [Period.ofDigit?_blank isBlank] at named
    cases named

theorem ofGlyph?_digit (period : Period) : Weekday.ofGlyph? period.digit = none := by
  have none : ∀ period ∈ Period.all, Weekday.ofGlyph? period.digit = none := by decide
  exact none period (Period.mem_all period)

theorem periodsIn_digits (periods : List Period) : periodsIn (periods.map Period.digit) = periods := by
  have same : Period.ofDigit? ∘ Period.digit = some := funext Period.ofDigit?_digit
  rw [periodsIn, List.filterMap_map, same, List.filterMap_some]

theorem read?_toChars (segment : Segment) : read? (toChars segment) = some segment := by
  rw [toChars, read?, Weekday.ofGlyph?_glyph, periodsIn_digits]
  rfl

/-- Digits go into the open segment one after the other. -/
theorem scanFrom_digits (day : Weekday) (taken periods : List Period) (rest : List Char) :
    scanFrom (some ⟨day, taken⟩) (periods.map Period.digit ++ rest) =
      scanFrom (some ⟨day, taken ++ periods⟩) rest := by
  induction periods generalizing taken with
  | nil => simp
  | cons period periods ih =>
    rw [List.map_cons, List.cons_append, scanFrom_cons, ofGlyph?_digit, Period.ofDigit?_digit]
    dsimp only [Option.map_some]
    rw [ih, List.append_assoc, List.singleton_append]

/-- A written segment finishes the one before it and is then open itself. -/
theorem scanFrom_toChars (current : Option Segment) (segment : Segment) (rest : List Char) :
    scanFrom current (toChars segment ++ rest) = finished current ++ scanFrom (some segment) rest := by
  rw [toChars, List.cons_append, scanFrom_cons, Weekday.ofGlyph?_glyph]
  dsimp only
  rw [scanFrom_digits, List.nil_append]

theorem scan_toChars (segment : Segment) : scan (toChars segment) = finished (some segment) := by
  have whole := scanFrom_toChars none segment []
  rw [List.append_nil, scanFrom_nil] at whole
  exact whole

end Segment

namespace Mapping

open Segment (alphabet mem_alphabet_of_mem_toChars visible_of_mem_alphabet)

theorem mem_renderLine {remap : Remap} {character : Char} (member : character ∈ renderLine remap) :
    character = arrow ∨ character ∈ alphabet := by
  rw [renderLine, List.mem_append, List.mem_cons] at member
  rcases member with left | rfl | right
  · exact .inr (mem_alphabet_of_mem_toChars left)
  · exact .inl rfl
  · exact .inr (mem_alphabet_of_mem_toChars right)

/-- As both sides are of one length, nothing is dealt out or broadcast: the periods pair off. -/
theorem pair_sides (remap : Remap) :
    pair ⟨remap.source, remap.sourcePeriods⟩
        (Segment.finished (some ⟨remap.target, remap.targetPeriods⟩)) =
      if remap.pairs = [] then [] else [remap] := by
  by_cases empty : remap.pairs = []
  · simp [pair, Segment.finished, deal, Remap.sourcePeriods, Remap.targetPeriods, empty]
  · have written : remap.targetPeriods.isEmpty = false := by
      simpa [Remap.targetPeriods] using empty
    have paired : remap.sourcePeriods.zip remap.targetPeriods = remap.pairs := by
      rw [Remap.sourcePeriods, Remap.targetPeriods, ← List.unzip_fst, ← List.unzip_snd, List.zip_unzip]
    have even : ([(⟨remap.target, remap.targetPeriods⟩ : Segment)].flatMap (·.periods)).length =
        remap.sourcePeriods.length := by
      rw [List.flatMap_singleton, remap.length_sourcePeriods]
    rw [Segment.finished, written, if_neg Bool.false_ne_true, pair, if_pos even, deal, deal, paired,
      if_neg empty]

theorem readLine_renderLine (remap : Remap) :
    readLine (Text.trim (renderLine remap)) = if remap.pairs = [] then [] else [remap] := by
  have visible : ∀ character ∈ renderLine remap, Text.isBlank character = false := by
    intro character member
    rcases mem_renderLine member with rfl | written
    · decide
    · exact visible_of_mem_alphabet written
  have sideVisible (segment : Segment) : Text.trim segment.toChars = segment.toChars :=
    Text.trim_of_visible fun character member =>
      visible_of_mem_alphabet (mem_alphabet_of_mem_toChars member)
  have noArrow (segment : Segment) : arrow ∉ segment.toChars := by
    intro member
    exact absurd (mem_alphabet_of_mem_toChars member) (by decide)
  rw [Text.trim_of_visible visible, readLine, renderLine, Text.cut?_append _ (noArrow _)]
  dsimp only
  rw [sideVisible, sideVisible, Segment.read?_toChars, Segment.scan_toChars]
  exact pair_sides remap

theorem read_render_lines (remaps : List Remap) :
    read (render remaps) = remaps.flatMap fun remap => if remap.pairs = [] then [] else [remap] := by
  cases remaps with
  | nil => rfl
  | cons first rest =>
    have oneLine : ∀ line ∈ (first :: rest).map renderLine, '\n' ∉ line := by
      intro line listed member
      obtain ⟨remap, -, rfl⟩ := List.mem_map.mp listed
      exact absurd (mem_renderLine member) (by decide)
    rw [read, render, Text.split_intercalate oneLine (List.cons_ne_nil _ _), List.flatMap_map]
    simp only [readLine_renderLine]

theorem read_render_of_paired {remaps : List Remap} (paired : ∀ remap ∈ remaps, remap.pairs ≠ []) :
    read (render remaps) = remaps := by
  rw [read_render_lines, List.flatMap_congr fun remap member => if_neg (paired remap member)]
  exact List.flatMap_singleton' remaps

/-- Reading what is written of remaps gives them back in order, those without pairs left out. -/
theorem read_render (remaps : List Remap) :
    read (render remaps) = remaps.filter (·.pairs ≠ []) := by
  rw [read_render_lines]
  induction remaps with
  | nil => rfl
  | cons remap remaps ih =>
    rw [List.flatMap_cons, ih]
    by_cases empty : remap.pairs = []
    · simp [empty]
    · simp [empty]

end Mapping

end SchoolWeek
