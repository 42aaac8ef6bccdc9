import Mathlib
import SchoolWeek.Proofs.DateText
import SchoolWeek.Proofs.EngineContract

/-! The way of a pattern name into the title of a marker and back. What comes back is
the name without the white space around it, whatever the lead. -/
namespace SchoolWeek

namespace Text

theorem trimEnd_eq (text : List Char) : trimEnd text = text.rdropWhile isBlank := rfl

theorem trimStart_trim (text : List Char) : trimStart (trim text) = trim text := by
  obtain ⟨blank, whole⟩ : trim text <+: trimStart text := List.rdropWhile_prefix isBlank _
  cases written : trim text with
  | nil => rfl
  | cons first rest =>
    have visible := List.head?_dropWhile_not isBlank text
    rw [show text.dropWhile isBlank = trimStart text from rfl, ← whole, written] at visible
    exact trimStart_cons visible

@[simp]
theorem trim_trim (text : List Char) : trim (trim text) = trim text := by
  rw [trim, trimStart_trim, trim, trimEnd_eq, trimEnd_eq]
  exact List.rdropWhile_idempotent isBlank _

end Text

namespace Marker

theorem isTitle_title (lead patternName : String) : isTitle lead (title lead patternName) = true := by
  simp [isTitle, title]

theorem patternNameOf_title (lead patternName : String) :
    patternNameOf lead (title lead patternName) = String.ofList (Text.trim patternName.toList) := by
  have dropped : Text.dropLead? lead.toList (title lead patternName).toList =
      some patternName.toList := by
    rw [Text.dropLead?_eq_some_iff, title, String.toList_append]
  rw [patternNameOf, dropped, Option.getD_some]

end Marker

theorem Event.exists_fullDay {date : Date} (followed : date.next?.isSome) (handle : Int)
    (title : String) : ∃ event, fullDay handle date title = .ok event := by
  obtain ⟨next, following⟩ := Option.isSome_iff_exists.mp followed
  rw [fullDay, following]
  exact ⟨_, rfl⟩

namespace View

/-- The view with this event in place of the markers of the date. -/
def marked (view : View) (date : Date) (event : Event) : View :=
  { view.withoutMarkers date with events := (view.withoutMarkers date).events ++ [event] }

theorem markersOn_marked {view : View} {date : Date} {event : Event}
    (isMarker : view.isMarkerOn date event = true) :
    (view.marked date event).markersOn date = [event] := by
  have others : (view.events.filter (!view.isMarkerOn date ·)).filter (view.isMarkerOn date) = [] :=
    List.filter_eq_nil_iff.mpr fun other member => by simpa using (List.mem_filter.mp member).2
  show (view.events.filter (!view.isMarkerOn date ·) ++ [event]).filter (view.isMarkerOn date) = _
  rw [List.filter_append, others, List.nil_append, List.filter_cons_of_pos isMarker,
    List.filter_nil]

/-- Where an event can stand and markers may be written, the new marker is the only one. -/
theorem createMarker_marks {view : View} {date : Date} (permitted : view.permitted = true)
    (followed : date.next?.isSome) (handle : Int) (patternName : String) :
    ∃ created, view.createMarker handle date patternName = (.ok handle, created) ∧
      created.marker? date = some ⟨String.ofList (Text.trim patternName.toList), handle⟩ ∧
      created.recordOn = view.recordOn := by
  obtain ⟨event, made⟩ :=
    Event.exists_fullDay followed handle (Marker.title view.lead patternName)
  obtain ⟨sameHandle, sameDate, sameTitle⟩ := Event.fullDay_fields made
  have isMarker : view.isMarkerOn date event = true := by
    rw [isMarkerOn, sameDate, sameTitle, Marker.isTitle_title, beq_self_eq_true, Bool.true_and]
  refine ⟨view.marked date event, ?_, ?_, rfl⟩
  · rw [createMarker, if_pos permitted, made]
    dsimp only
    rw [addEvent, made]
    rfl
  · rw [marker?_eq (show (view.marked date event).permitted = true from permitted),
      markersOn_marked isMarker, List.head?_cons, Option.map_some, sameTitle, sameHandle,
      ← Marker.patternNameOf_title view.lead patternName]
    rfl

end View
end SchoolWeek
