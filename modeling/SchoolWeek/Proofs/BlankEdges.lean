import Mathlib
import SchoolWeek.Proofs.MarkerTitle
import SchoolWeek.Proofs.PlanPairs

/-! White space around the name of a pattern does not count: the name and the name that
comes back out of a marker, which has lost the white space at its ends, stand for the same
plan. No glyph, digit or keyword has a blank character in it, and a line of a mapping is
trimmed before it is read. -/
namespace SchoolWeek

namespace Text

/-- A blank character more at either end of a text makes no difference to the reader. -/
structure IgnoresEdges {α : Type} (read : List Char → α) : Prop where
  first {blank : Char} (text : List Char) : isBlank blank = true → read (blank :: text) = read text
  last {blank : Char} (text : List Char) : isBlank blank = true → read (text ++ [blank]) = read text

/-- By induction from either end: as long as there is white space to cut off, cutting it off
makes no difference. -/
theorem IgnoresEdges.trim {α : Type} {read : List Char → α} (ignores : IgnoresEdges read)
    (text : List Char) : read (Text.trim text) = read text := by
  have atStart : read (trimStart text) = read text := by
    induction text with
    | nil => rfl
    | cons character rest ih =>
      by_cases blank : isBlank character = true
      · rw [trimStart, List.dropWhile_cons_of_pos blank, ← trimStart, ih,
          ignores.first rest blank]
      · rw [trimStart, List.dropWhile_cons_of_neg blank]
  have atEnd (text : List Char) : read (trimEnd text) = read text := by
    induction text using List.reverseRecOn with
    | nil => rfl
    | append_singleton rest character ih =>
      by_cases blank : isBlank character = true
      · rw [trimEnd_eq, List.rdropWhile_concat_pos _ _ _ blank, ← trimEnd_eq, ih,
          ignores.last rest blank]
      · rw [trimEnd_eq, List.rdropWhile_concat_neg _ _ _ blank]
  rw [Text.trim, atEnd, atStart]

theorem trim_cons_blank {blank : Char} (text : List Char) (isBlank : isBlank blank = true) :
    trim (blank :: text) = trim text := by
  rw [trim, trimStart, List.dropWhile_cons_of_pos isBlank]
  rfl

theorem trim_concat_blank {blank : Char} (text : List Char) (isBlank : isBlank blank = true) :
    trim (text ++ [blank]) = trim text := by
  rw [trim, trim, trimStart, trimStart, List.dropWhile_append]
  split
  · rename_i empty
    rw [List.isEmpty_iff.mp empty, List.dropWhile_cons_of_pos isBlank]
    rfl
  · rw [trimEnd_eq, List.rdropWhile_concat_pos _ _ _ isBlank, trimEnd_eq]

/-- A character put before a text goes to the first of its parts or opens another one. -/
theorem split_cons (isSeparator : Char → Bool) (character : Char) (text : List Char) :
    ∃ part parts, split isSeparator text = part :: parts ∧
      split isSeparator (character :: text) =
        if isSeparator character then [] :: part :: parts else (character :: part) :: parts := by
  obtain ⟨part, parts, whole⟩ := List.exists_cons_of_ne_nil (split_ne_nil isSeparator text)
  refine ⟨part, parts, whole, ?_⟩
  rw [split, whole]

/-- A character added to a text goes to the last of its parts or opens another one. -/
theorem split_concat (isSeparator : Char → Bool) (text : List Char) (character : Char) :
    ∃ parts last, split isSeparator text = parts ++ [last] ∧
      split isSeparator (text ++ [character]) =
        parts ++ if isSeparator character then [last, []] else [last ++ [character]] := by
  induction text with
  | nil => exact ⟨[], [], rfl, by simp [split]⟩
  | cons first rest ih =>
    obtain ⟨parts, last, before, after⟩ := ih
    rw [List.cons_append]
    unfold split
    rw [before, after]
    by_cases separates : isSeparator first = true
    · exact ⟨[] :: parts, last, by simp [separates], by simp [separates]⟩
    · cases parts with
      | nil =>
        refine ⟨[], first :: last, by simp [separates], ?_⟩
        by_cases ends : isSeparator character = true <;> simp [separates, ends]
      | cons part parts =>
        exact ⟨(first :: part) :: parts, last, by simp [separates], by simp [separates]⟩

end Text

open Text (IgnoresEdges)

theorem Weekday.ofGlyph?_blank {blank : Char} (isBlank : Text.isBlank blank = true) :
    ofGlyph? blank = none := by
  have visible (day : Weekday) : Text.isBlank day.glyph = false := by cases day <;> decide
  cases named : ofGlyph? blank with
  | none => rfl
  | some day =>
    rw [← ofGlyph?_eq_some_iff.mp named, visible] at isBlank
    cases isBlank

theorem Period.ofDigit?_blank {blank : Char} (isBlank : Text.isBlank blank = true) :
    ofDigit? blank = none := by
  cases named : ofDigit? blank with
  | none => rfl
  | some period =>
    have value : period.number = blank.toNat - '0'.toNat := ofNat?_eq_some_iff.mp named
    have low := period.one_le
    have high := period.le_nine
    have digit : blank.isDigit = true := by
      simp only [Char.isDigit, Bool.and_eq_true, decide_eq_true_eq, ge_iff_le,
        UInt32.le_iff_toNat_le]
      have zero : '0'.toNat = 48 := rfl
      have code : blank.toNat = blank.val.toNat := rfl
      show 48 ≤ blank.val.toNat ∧ blank.val.toNat ≤ 57
      omega
    rw [Text.isBlank_of_isDigit digit] at isBlank
    cases isBlank

theorem periodsIn_ignoresEdges : IgnoresEdges periodsIn where
  first text isBlank := List.filterMap_cons_none (Period.ofDigit?_blank isBlank)
  last text isBlank := by
    rw [periodsIn, List.filterMap_append, List.filterMap_cons_none (Period.ofDigit?_blank isBlank),
      List.filterMap_nil, List.append_nil]
    rfl

namespace Segment

theorem scanFrom_cons_blank {blank : Char} (current : Option Segment) (rest : List Char)
    (isBlank : Text.isBlank blank = true) :
    scanFrom current (blank :: rest) = scanFrom current rest := by
  rw [scanFrom_cons, Weekday.ofGlyph?_blank isBlank, Period.ofDigit?_blank isBlank]

theorem scanFrom_concat_blank {blank : Char} (current : Option Segment) (text : List Char)
    (isBlank : Text.isBlank blank = true) :
    scanFrom current (text ++ [blank]) = scanFrom current text := by
  induction text generalizing current with
  | nil => exact scanFrom_cons_blank current [] isBlank
  | cons character rest ih =>
    rw [List.cons_append, scanFrom_cons, scanFrom_cons]
    simp only [ih]

theorem scan_ignoresEdges : IgnoresEdges scan where
  first text isBlank := scanFrom_cons_blank none text isBlank
  last text isBlank := scanFrom_concat_blank none text isBlank

end Segment

/-- A line feed at an edge only adds a line with nothing in it. -/
theorem Mapping.read_ignoresEdges : IgnoresEdges read where
  first {blank} text isBlank := by
    obtain ⟨part, parts, before, after⟩ := Text.split_cons (· == '\n') blank text
    rw [read, read, before, after]
    split_ifs
    · rfl
    · rw [List.flatMap_cons, Text.trim_cons_blank part isBlank]
      rfl
  last {blank} text isBlank := by
    obtain ⟨parts, last, before, after⟩ := Text.split_concat (· == '\n') text blank
    rw [read, read, before, after, List.flatMap_append, List.flatMap_append]
    split_ifs
    · rfl
    · rw [List.flatMap_cons, Text.trim_concat_blank last isBlank]
      rfl

namespace Kind

theorem toLower_of_isBlank {blank : Char} (isBlank : Text.isBlank blank = true) :
    blank.toLower = blank := by
  refine Char.toLower_eq_of_not_isUpper fun upper => ?_
  simp only [Char.isUpper, decide_eq_true_eq, ge_iff_le, UInt32.le_iff_toNat_le] at upper
  have low : 65 ≤ blank.val.toNat := upper.1
  have high : blank.val.toNat ≤ 90 := upper.2
  simp only [Text.isBlank, Char.toNat, Bool.or_eq_true, Bool.and_eq_true, decide_eq_true_eq,
    beq_iff_eq] at isBlank
  omega

theorem visible_of_mem_keywords : ∀ entry ∈ keywords, ∀ keyword ∈ entry.2,
    ∀ character ∈ keyword.toList, Text.isBlank character = false := by
  have visible : ∀ entry ∈ keywords, ∀ keyword ∈ entry.2,
      keyword.toList.all (fun character => !Text.isBlank character) = true := by decide
  intro entry listed keyword member character inside
  simpa using List.all_eq_true.mp (visible entry listed keyword member) character inside

/-- A part without white space does not begin or end with the blank character. -/
theorem occurs_ignoresEdges {part : List Char}
    (visible : ∀ character ∈ part, Text.isBlank character = false) :
    IgnoresEdges fun text => Text.occurs part (text.map Char.toLower) where
  first {blank} text isBlank := by
    rw [Bool.eq_iff_iff, Text.occurs_iff, Text.occurs_iff, List.map_cons,
      toLower_of_isBlank isBlank, List.infix_cons_iff, List.prefix_cons_iff]
    constructor
    · rintro ((rfl | ⟨rest, rfl, _⟩) | inside)
      · exact List.nil_infix
      · rw [visible blank List.mem_cons_self] at isBlank
        cases isBlank
      · exact inside
    · exact Or.inr
  last {blank} text isBlank := by
    rw [Bool.eq_iff_iff, Text.occurs_iff, Text.occurs_iff, List.map_append, List.map_singleton,
      toLower_of_isBlank isBlank, List.infix_concat_iff, List.suffix_concat_iff]
    constructor
    · rintro ((rfl | ⟨rest, rfl, _⟩) | inside)
      · exact List.nil_infix
      · rw [visible blank (List.mem_append_right rest List.mem_cons_self)] at isBlank
        cases isBlank
      · exact inside
    · exact Or.inr

/-- The search in a text that is in lower case already. -/
def selectLowered (lowered : List Char) : Kind :=
  match keywords.find? fun entry => entry.2.any (Text.occurs ·.toList lowered) with
  | some (kind, _) => kind
  | none => custom

/-- Only which keywords stand in a text plays a part. -/
theorem selectLowered_congr {left right : List Char} (same : ∀ entry ∈ keywords,
    ∀ keyword ∈ entry.2, Text.occurs keyword.toList left = Text.occurs keyword.toList right) :
    selectLowered left = selectLowered right := by
  have met : ∀ entry ∈ keywords, entry.2.any (Text.occurs ·.toList left) =
      entry.2.any (Text.occurs ·.toList right) := by
    intro entry listed
    refine Bool.eq_iff_iff.mpr ?_
    rw [List.any_eq_true, List.any_eq_true]
    refine exists_congr fun keyword => and_congr_right fun member => ?_
    rw [same entry listed keyword member]
  rw [selectLowered, selectLowered, List.find?_congr met]

/-- The kind is that of the name without the white space at its ends. -/
theorem ofPatternName_trim (name : List Char) :
    ofPatternName (Text.trim name) = ofPatternName name :=
  selectLowered_congr fun entry listed keyword member =>
    (occurs_ignoresEdges (visible_of_mem_keywords entry listed keyword member)).trim name

end Kind

namespace Plan

theorem ofNotation_trim (text : List Char) (day : Weekday) :
    ofNotation (Text.trim text) day = ofNotation text day := by
  rw [ofNotation, ofNotation, sequential, sequential, bareDigits, bareDigits,
    Mapping.read_ignoresEdges.trim, Segment.scan_ignoresEdges.trim, periodsIn_ignoresEdges.trim]

/-- The plan is that of the name without the white space at its ends. -/
theorem ofPatternName_trim (name : List Char) (day : Weekday) :
    ofPatternName (Text.trim name) day = ofPatternName name day := by
  rw [ofPatternName, ofPatternName, Kind.ofPatternName_trim]
  cases Kind.ofPatternName name with
  | custom => exact ofNotation_trim name day
  | normal | shortA | shortB | shortC | exam => rfl

end Plan

end SchoolWeek
