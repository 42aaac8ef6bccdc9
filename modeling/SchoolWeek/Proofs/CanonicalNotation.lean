import Mathlib
import SchoolWeek.Proofs.PlanPairs
import SchoolWeek.Proofs.Rebuilding
import SchoolWeek.Proofs.Rendering
import SchoolWeek.Proofs.Requests

/-! The notation that a plan is shown in. Mapping lines are written in glyphs, digits and
arrows, and no keyword can be put together from these. So a plan that names any remap is had
back from its notation wherever a text is taken: as a pattern name, as a custom text or in
the title of a marker, and on any weekday, since mapping lines name their days themselves. -/
namespace SchoolWeek

namespace Mapping

/-- The characters that mapping lines are written in. -/
def letters : List Char := '\n' :: arrow :: Segment.alphabet

/-- By recursion on the remaps: each adds its line, and a line feed if another one follows. -/
theorem mem_letters_of_mem_render {remaps : List Remap} :
    ∀ character ∈ render remaps, character ∈ letters := by
  have lineIn {remap : Remap} {character : Char} (member : character ∈ renderLine remap) :
      character ∈ letters := by
    rcases mem_renderLine member with rfl | written
    · exact List.mem_cons_of_mem _ List.mem_cons_self
    · exact List.mem_cons_of_mem _ (List.mem_cons_of_mem _ written)
  induction remaps with
  | nil => exact fun character member => absurd member List.not_mem_nil
  | cons first rest ih =>
    intro character member
    cases rest with
    | nil =>
      rw [render, List.map_singleton, List.intercalate_singleton] at member
      exact lineIn member
    | cons second rest =>
      rw [render, List.map_cons, List.map_cons, List.intercalate_cons_cons, ← List.map_cons,
        ← render, List.mem_append, List.mem_append] at member
      rcases member with (line | feed) | later
      · exact lineIn line
      · rw [List.mem_singleton.mp feed]
        exact List.mem_cons_self
      · exact ih character later

/-- A notation that can be read is not blank. -/
theorem trim_ne_nil_of_read {text : List Char} (named : read text ≠ []) : Text.trim text ≠ [] := by
  intro blank
  rw [← read_ignoresEdges.trim, blank] at named
  exact named rfl

end Mapping

/-- Every keyword needs a character that mapping lines do without, in either case. -/
theorem Kind.ofPatternName_render (remaps : List Remap) :
    ofPatternName (Mapping.render remaps) = .custom := by
  have foreign : ∀ entry ∈ keywords, ∀ keyword ∈ entry.2,
      ¬ keyword.toList ⊆ Mapping.letters := by decide
  have caseless : Mapping.letters.all (fun letter => letter.toLower == letter) = true := by decide
  have lowered : (Mapping.render remaps).map Char.toLower = Mapping.render remaps := by
    refine (List.map_congr_left fun letter member => ?_).trans (List.map_id _)
    simpa using List.all_eq_true.mp caseless letter (Mapping.mem_letters_of_mem_render letter member)
  rw [ofPatternName_eq_custom_iff]
  rintro ⟨entry, listed, keyword, member, occurs⟩
  rw [lowered, Text.occurs_iff] at occurs
  refine foreign entry listed keyword member fun letter inside => ?_
  exact Mapping.mem_letters_of_mem_render letter (occurs.subset inside)

namespace Plan

variable {remaps : List Remap}

theorem ofNotation_of_read {text : List Char} (named : Mapping.read text ≠ []) (day : Weekday) :
    ofNotation text day = Mapping.read text := by
  unfold ofNotation
  split
  · rename_i nothing
    exact absurd nothing named
  · rfl

theorem ofNotation_render (paired : ∀ remap ∈ remaps, remap.pairs ≠ []) (named : remaps ≠ [])
    (day : Weekday) : ofNotation (Mapping.render remaps) day = remaps := by
  have read := Mapping.read_render_of_paired paired
  have written : Mapping.read (Mapping.render remaps) ≠ [] := by rwa [read]
  rw [ofNotation_of_read written, read]

theorem ofPatternName_render (paired : ∀ remap ∈ remaps, remap.pairs ≠ []) (named : remaps ≠ [])
    (day : Weekday) : ofPatternName (Mapping.render remaps) day = remaps := by
  rw [ofPatternName, Kind.ofPatternName_render]
  exact ofNotation_render paired named day

theorem preview_render (paired : ∀ remap ∈ remaps, remap.pairs ≠ []) (named : remaps ≠ [])
    (name : String) (day : Weekday) :
    preview name day (some (String.ofList (Mapping.render remaps))) = remaps := by
  have written : Text.trim (String.ofList (Mapping.render remaps)).toList ≠ [] := by
    rw [String.toList_ofList]
    refine Mapping.trim_ne_nil_of_read ?_
    rwa [Mapping.read_render_of_paired paired]
  rw [preview_custom written, String.toList_ofList, ofNotation_trim]
  exact ofNotation_render paired named day

/-- The notation of a plan stands for that plan wherever it is taken: read by itself, as a
pattern name, as a custom text under any name, and as the text of a marker, on any weekday.
It is the notation that a preview answers with. -/
theorem preview_settles {name : String} {day : Weekday} {custom? : Option String}
    (named : preview name day custom? ≠ []) (otherName lead : String) (otherDay : Weekday) :
    let plan := preview name day custom?
    let text := String.ofList (Mapping.render plan)
    Mapping.read text.toList = plan ∧
      ofPatternName text.toList otherDay = plan ∧
      preview otherName otherDay (some text) = plan ∧
      ofPatternName (Marker.patternNameOf lead (Marker.title lead text)).toList otherDay = plan ∧
      ∃ kind, Http.previewOf ⟨name, some day, none, custom?⟩ =
        .ok (Http.previewBody kind plan (.text text)) := by
  intro plan text
  have paired : ∀ remap ∈ plan, remap.pairs ≠ [] := pairs_ne_nil_of_mem_preview name day custom?
  have characters : text.toList = Mapping.render plan := String.toList_ofList
  have asName : ofPatternName text.toList otherDay = plan := by
    rw [characters]
    exact ofPatternName_render paired named otherDay
  refine ⟨?_, asName, preview_render paired named otherName otherDay, ?_, _, rfl⟩
  · rw [characters]
    exact Mapping.read_render_of_paired paired
  · rw [Marker.patternNameOf_title, String.toList_ofList, ofPatternName_trim]
    exact asName

theorem preview_settles_sequential :
    let plan := preview " 火3木12 " .monday none
    let text := String.ofList (Mapping.render plan)
    text = "火3→月1\n木12→月23" ∧ plan ≠ [] ∧ ofPatternName text.toList .friday = plan ∧
      preview "短縮A" .friday (some text) = plan := by
  intro plan text
  have named : plan ≠ [] := by decide
  obtain ⟨-, asName, asCustom, -, -⟩ := preview_settles named "短縮A" "" .friday
  exact ⟨by decide, named, asName, asCustom⟩

end Plan
end SchoolWeek
