import Mathlib
import SchoolWeek.Proofs.Rendering

/-! The grammar of segments. Of a text only the glyphs and digits count. They fall in one way
into digits before the first glyph and blocks of a glyph and the digits up to the next one, and
the scanner finds the blocks that have a digit, whatever else stands between the characters.
Segments with periods that are written one after the other are therefore scanned as they were. -/
namespace SchoolWeek

theorem Period.ofDigit?_eq_some_iff {character : Char} {period : Period} :
    ofDigit? character = some period ↔ period.digit = character := by
  constructor
  · intro found
    have number := ofNat?_eq_some_iff.mp found
    have code : '0'.toNat + period.number = character.toNat := by
      have one_le := period.one_le
      omega
    rw [digit, code, Char.ofNat_toNat]
  · rintro rfl
    exact ofDigit?_digit period

namespace Segment

/-- A text without the characters that say nothing. -/
def lettersOf (text : List Char) : List Char := text.filter (· ∈ alphabet)

theorem mem_alphabet_iff {character : Char} :
    character ∈ alphabet ↔
      (∃ day, Weekday.ofGlyph? character = some day) ∨
        ∃ period, Period.ofDigit? character = some period := by
  have listed (day : Weekday) : day ∈ Weekday.all := by cases day <;> decide
  simp [alphabet, Weekday.ofGlyph?_eq_some_iff, Period.ofDigit?_eq_some_iff, listed, Period.mem_all]

theorem ofGlyph?_other {character : Char} (other : character ∉ alphabet) :
    Weekday.ofGlyph? character = none :=
  Option.eq_none_iff_forall_ne_some.mpr fun day named => other (mem_alphabet_iff.mpr (.inl ⟨day, named⟩))

theorem ofDigit?_other {character : Char} (other : character ∉ alphabet) :
    Period.ofDigit? character = none :=
  Option.eq_none_iff_forall_ne_some.mpr fun period named =>
    other (mem_alphabet_iff.mpr (.inr ⟨period, named⟩))

theorem ofDigit?_glyph (day : Weekday) : Period.ofDigit? day.glyph = none := by
  cases day <;> decide

/-- A character is a glyph, a digit or neither. -/
theorem character_cases {motive : Char → Prop} (glyph : ∀ day : Weekday, motive day.glyph)
    (digit : ∀ period : Period, motive period.digit)
    (other : ∀ character, character ∉ alphabet → motive character) (character : Char) :
    motive character := by
  by_cases member : character ∈ alphabet
  · rcases mem_alphabet_iff.mp member with ⟨day, named⟩ | ⟨period, named⟩
    · exact Weekday.ofGlyph?_eq_some_iff.mp named ▸ glyph day
    · exact Period.ofDigit?_eq_some_iff.mp named ▸ digit period
  · exact other character member

/-- Digits before the first glyph, then blocks of one glyph and the digits up to the next. -/
structure Parts where
  lead : List Period
  blocks : List Segment
  deriving DecidableEq

namespace Parts

def toChars (parts : Parts) : List Char :=
  parts.lead.map Period.digit ++ parts.blocks.flatMap Segment.toChars

/-- The parts with one more character in front. A glyph opens a block with the digits that
had none before. -/
def precededBy (character : Char) (parts : Parts) : Parts :=
  match Weekday.ofGlyph? character with
  | some day => ⟨[], ⟨day, parts.lead⟩ :: parts.blocks⟩
  | none =>
    match Period.ofDigit? character with
    | some period => ⟨period :: parts.lead, parts.blocks⟩
    | none => parts

/-- The parts of a text, read from its end. -/
def ofText (text : List Char) : Parts := text.foldr precededBy ⟨[], []⟩

theorem ofText_cons (character : Char) (rest : List Char) :
    ofText (character :: rest) = (ofText rest).precededBy character := by
  rw [ofText, List.foldr_cons, ← ofText]

theorem precededBy_glyph (day : Weekday) (parts : Parts) :
    parts.precededBy day.glyph = ⟨[], ⟨day, parts.lead⟩ :: parts.blocks⟩ := by
  rw [precededBy, Weekday.ofGlyph?_glyph]

theorem precededBy_digit (period : Period) (parts : Parts) :
    parts.precededBy period.digit = ⟨period :: parts.lead, parts.blocks⟩ := by
  rw [precededBy, ofGlyph?_digit, Period.ofDigit?_digit]

theorem precededBy_other {character : Char} (other : character ∉ alphabet) (parts : Parts) :
    parts.precededBy character = parts := by
  rw [precededBy, ofGlyph?_other other, ofDigit?_other other]

theorem toChars_ofText (text : List Char) : (ofText text).toChars = lettersOf text := by
  induction text with
  | nil => rfl
  | cons character rest ih =>
    rw [ofText_cons, lettersOf, List.filter_cons, ← lettersOf, ← ih]
    cases character using character_cases with
    | glyph day =>
      have member : day.glyph ∈ alphabet := mem_alphabet_iff.mpr (.inl ⟨day, day.ofGlyph?_glyph⟩)
      rw [if_pos (decide_eq_true member), precededBy_glyph]
      rfl
    | digit period =>
      have member : period.digit ∈ alphabet :=
        mem_alphabet_iff.mpr (.inr ⟨period, period.ofDigit?_digit⟩)
      rw [if_pos (decide_eq_true member), precededBy_digit]
      rfl
    | other character other =>
      rw [if_neg (by simpa using other), precededBy_other other]

theorem ofText_digits (periods : List Period) (rest : List Char) :
    ofText (periods.map Period.digit ++ rest) =
      ⟨periods ++ (ofText rest).lead, (ofText rest).blocks⟩ := by
  induction periods with
  | nil => rfl
  | cons period periods ih =>
    rw [List.map_cons, List.cons_append, ofText_cons, ih, precededBy_digit]
    rfl

theorem ofText_blocks (blocks : List Segment) :
    ofText (blocks.flatMap Segment.toChars) = ⟨[], blocks⟩ := by
  induction blocks with
  | nil => rfl
  | cons block blocks ih =>
    rw [List.flatMap_cons, Segment.toChars, List.cons_append, ofText_cons, ofText_digits, ih,
      precededBy_glyph, List.append_nil]

/-- Glyphs and digits fall apart in no other way. -/
theorem ofText_toChars (parts : Parts) : ofText parts.toChars = parts := by
  rw [toChars, ofText_digits, ofText_blocks, List.append_nil]

theorem toChars_eq_lettersOf_iff {parts : Parts} {text : List Char} :
    parts.toChars = lettersOf text ↔ parts = ofText text := by
  constructor
  · intro written
    rw [← ofText_toChars parts, written, ← toChars_ofText, ofText_toChars]
  · rintro rfl
    exact toChars_ofText text

theorem ofText_lettersOf (text : List Char) : ofText (lettersOf text) = ofText text := by
  rw [← toChars_ofText, ofText_toChars]

/-- All digits of a text are those before its first glyph and those of its blocks. -/
theorem periodsIn_eq (text : List Char) :
    periodsIn text = (ofText text).lead ++ (ofText text).blocks.flatMap (·.periods) := by
  induction text with
  | nil => rfl
  | cons character rest ih =>
    rw [ofText_cons, periodsIn, List.filterMap_cons, ← periodsIn, ih]
    cases character using character_cases with
    | glyph day =>
      rw [ofDigit?_glyph, precededBy_glyph]
      rfl
    | digit period =>
      rw [Period.ofDigit?_digit, precededBy_digit]
      rfl
    | other character other =>
      rw [ofDigit?_other other, precededBy_other other]

/-- The digits of the blocks are those from the first glyph on. -/
theorem periods_blocks (text : List Char) :
    (ofText text).blocks.flatMap (·.periods) =
      periodsIn (text.dropWhile fun character => (Weekday.ofGlyph? character).isNone) := by
  induction text with
  | nil => rfl
  | cons character rest ih =>
    cases character using character_cases with
    | glyph day =>
      rw [List.dropWhile_cons_of_neg (by simp [Weekday.ofGlyph?_glyph]), periodsIn_eq, ofText_cons,
        precededBy_glyph, List.nil_append]
    | digit period =>
      rw [List.dropWhile_cons_of_pos (by simp [ofGlyph?_digit]), ← ih, ofText_cons, precededBy_digit]
    | other character other =>
      rw [List.dropWhile_cons_of_pos (by simp [ofGlyph?_other other]), ← ih, ofText_cons, precededBy_other other]

end Parts

theorem finished_some (segment : Segment) :
    finished (some segment) = [segment].filter (·.periods ≠ []) := by
  by_cases blank : segment.periods = [] <;> simp [finished, blank]

/-- By recursion on the text: an open segment takes the digits before the next glyph. -/
theorem scanFrom_eq (current : Option Segment) (text : List Char) :
    scanFrom current text =
      finished (current.map fun segment =>
        ⟨segment.day, segment.periods ++ (Parts.ofText text).lead⟩) ++
          (Parts.ofText text).blocks.filter (·.periods ≠ []) := by
  induction text generalizing current with
  | nil =>
    rw [scanFrom_nil]
    cases current with
    | none => rfl
    | some segment => simp [Parts.ofText]
  | cons character rest ih =>
    rw [scanFrom_cons, Parts.ofText_cons]
    cases character using character_cases with
    | glyph day =>
      rw [Weekday.ofGlyph?_glyph, Parts.precededBy_glyph]
      dsimp only
      rw [ih, Option.map_some, List.nil_append, finished_some, ← List.filter_append,
        List.singleton_append]
      cases current with
      | none => rfl
      | some segment => simp
    | digit period =>
      rw [ofGlyph?_digit, Period.ofDigit?_digit, Parts.precededBy_digit]
      dsimp only
      rw [ih]
      cases current with
      | none => rfl
      | some segment => simp
    | other character other =>
      rw [ofGlyph?_other other, ofDigit?_other other, Parts.precededBy_other other]
      exact ih current

theorem scan_eq (text : List Char) :
    scan text = (Parts.ofText text).blocks.filter (·.periods ≠ []) := scanFrom_eq none text

theorem flatMap_periods_filter (segments : List Segment) :
    (segments.filter (·.periods ≠ [])).flatMap (·.periods) = segments.flatMap (·.periods) := by
  induction segments with
  | nil => rfl
  | cons segment segments ih =>
    rw [List.filter_cons, List.flatMap_cons, ← ih]
    by_cases blank : segment.periods = []
    · rw [if_neg (by simpa using blank), blank, List.nil_append]
    · rw [if_pos (by simpa using blank), List.flatMap_cons]

/-- The scanner finds the blocks of a text that have a digit, and no text has its glyphs and
digits fall into blocks in two ways. So nothing but these counts, no digit after the first
glyph is lost, and what is written segment by segment is scanned segment by segment. -/
theorem scan_accepts (text : List Char) :
    (∃! parts : Parts, parts.toChars = lettersOf text) ∧
    (∀ parts : Parts, parts.toChars = lettersOf text →
      scan text = parts.blocks.filter (·.periods ≠ [])) ∧
    scan (lettersOf text) = scan text ∧
    (scan text).flatMap (·.periods) =
      periodsIn (text.dropWhile fun character => (Weekday.ofGlyph? character).isNone) ∧
    ∀ segments : List Segment, (∀ segment ∈ segments, segment.periods ≠ []) →
      scan (segments.flatMap toChars) = segments := by
  refine ⟨⟨Parts.ofText text, Parts.toChars_ofText text, ?_⟩, ?_, ?_, ?_, ?_⟩
  · exact fun parts written => Parts.toChars_eq_lettersOf_iff.mp written
  · intro parts written
    rw [scan_eq, Parts.toChars_eq_lettersOf_iff.mp written]
  · rw [scan_eq, scan_eq, Parts.ofText_lettersOf]
  · rw [scan_eq, flatMap_periods_filter, Parts.periods_blocks]
  · intro segments written
    rw [scan_eq, Parts.ofText_blocks]
    exact List.filter_eq_self.mpr fun segment member => decide_eq_true (written segment member)

/-- A digit before the first glyph, a glyph without digits and characters that count for
nothing, between two segments that are also scanned when they stand side by side. -/
theorem scan_accepts_strewn :
    let text := ['4', '月', 'a', '1', '2', '火', '、', '水', '0', '5', '\n']
    let parts : Parts := ⟨Period.range 4 4,
      [⟨.monday, Period.range 1 2⟩, ⟨.tuesday, []⟩, ⟨.wednesday, Period.range 5 5⟩]⟩
    let segments : List Segment := [⟨.monday, Period.range 1 2⟩, ⟨.wednesday, Period.range 5 5⟩]
    parts.toChars = lettersOf text ∧ scan text = parts.blocks.filter (·.periods ≠ []) ∧
      (∀ segment ∈ segments, segment.periods ≠ []) ∧ scan (segments.flatMap toChars) = segments := by
  intro text parts segments
  have written : parts.toChars = lettersOf text := by decide
  have filled : ∀ segment ∈ segments, segment.periods ≠ [] := by decide
  obtain ⟨-, blocks, -, -, joined⟩ := scan_accepts text
  exact ⟨written, blocks parts written, filled, joined segments filled⟩

end Segment
end SchoolWeek
