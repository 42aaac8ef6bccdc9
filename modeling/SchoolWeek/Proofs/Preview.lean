import Mathlib
import SchoolWeek.Proofs.Application
import SchoolWeek.Proofs.BlankEdges
import SchoolWeek.Proofs.Grouping
import SchoolWeek.Proofs.PlanPairs
import SchoolWeek.Proofs.Refusals

/-! Previews and the orders they announce. A preview is given the pattern name as it was
typed and an order trims it first, but no reading of a name or a custom text minds blanks at
its edges. So the rows that an order leaves are those of the preview, and as every remap of
a plan pairs some periods, a plan is empty exactly if what is stored of it is. -/
namespace SchoolWeek

theorem Weekday.mondayIndex_injective : Function.Injective mondayIndex := by
  intro left right same
  have read := ofMondayIndex?_mondayIndex left
  rw [same, ofMondayIndex?_mondayIndex] at read
  exact (Option.some.inj read).symm

namespace Encode

theorem mondayWeekday_injective : Function.Injective mondayWeekday := by
  intro left right same
  exact Weekday.mondayIndex_injective (Int.ofNat.inj (Json.number.inj same))

theorem period_injective : Function.Injective period := by
  intro left right same
  cases left
  cases right
  cases Int.ofNat.inj (Json.number.inj same)
  rfl

theorem periods_injective : Function.Injective periods := by
  intro left right same
  exact period_injective.list_map (Json.array.inj same)

/-- The days and the two lists of periods make the remap. -/
theorem remap_injective : Function.Injective remap := by
  intro left right same
  simp only [remap, Json.object.injEq, List.cons.injEq, Prod.mk.injEq, true_and, and_true] at same
  obtain ⟨sources, targets, sourcePeriods, targetPeriods⟩ := same
  have built := Remap.ofPeriods?_periods left
  rw [mondayWeekday_injective sources, mondayWeekday_injective targets,
    periods_injective sourcePeriods, periods_injective targetPeriods,
    Remap.ofPeriods?_periods] at built
  exact (Option.some.inj built).symm

theorem remaps_injective : Function.Injective remaps := by
  intro left right same
  exact remap_injective.list_map (Json.array.inj same)

end Encode

/-- What would be applied does not depend on blanks around the pattern name. -/
theorem Plan.preview_trim (name : String) (day : Weekday) (custom? : Option String) :
    preview (String.ofList (Text.trim name.toList)) day custom? = preview name day custom? := by
  unfold preview
  cases effectiveCustom? custom? with
  | some text => rfl
  | none =>
    dsimp only
    rw [String.toList_ofList, ofPatternName_trim]

namespace Http

theorem appliedBody_inj {applied other : Bool} {remaps others : List Remap}
    (same : appliedBody applied remaps = appliedBody other others) :
    applied = other ∧ remaps = others := by
  simp only [appliedBody, Json.object.injEq, List.cons.injEq, Prod.mk.injEq, true_and, and_true,
    Json.bool.injEq] at same
  exact ⟨same.1, Encode.remaps_injective same.2⟩

theorem remaps_of_previewBody {kind other : Json} {remaps others : List Remap}
    {written rewritten : Json}
    (same : previewBody kind remaps written = previewBody other others rewritten) :
    remaps = others := by
  simp only [previewBody, Json.object.injEq, List.cons.injEq, Prod.mk.injEq, true_and,
    and_true] at same
  exact Encode.remaps_injective same.2.1

theorem Response.fails_of_ofApplyError? {error : ApplyError} {response : Response}
    (answered : ofApplyError? error = some response) : ¬ response.Succeeds := by
  refine fails_of_le ?_
  cases error with
  | calendar fault => cases fault <;> cases answered <;> exact Nat.le_of_ble_eq_true rfl
  | store fault => cases fault <;> cases answered <;> exact Nat.le_of_ble_eq_true rfl

variable {σ : Type} [Backend σ] [Backend.Lawful σ] {state : σ} {view : View} {date : Date}
  {order : ApplyOrder} {request : Request} {response : Response}

open Backend.Lawful (Shows)

/-- An order that is answered with success has left the rows of its plan, and the answer
has what is regrouped from them. -/
theorem Request.Orders.succeeds (orders : request.Orders date order) (shown : Shows state view)
    (answered : (handle request state).1 = some response) (succeeded : response.Succeeds) :
    let name := String.ofList (Text.trim order.patternName.toList)
    let plan := Plan.preview name date.weekday order.custom?
    response = .ok (appliedBody (!plan.isEmpty) (Remap.regroup (Remap.flatten plan name))) ∧
      ∃ after, Shows (handle request state).2 after ∧
        after.rowsOn date = Remap.flatten plan name := by
  intro name plan
  rw [orders.handle_eq] at answered ⊢
  rcases putSpecial_cases date order state with ⟨message, blank⟩ | ⟨error, between, ran, whole⟩ |
    ⟨applied, between, ran, whole⟩
  · rw [blank] at answered
    cases answered
    exact absurd succeeded (Response.fails_of_le (Nat.le_of_ble_eq_true rfl))
  · rw [whole] at answered
    exact absurd succeeded (Response.fails_of_ofApplyError? answered)
  · obtain ⟨handle, -, leaves⟩ :=
      Engine.applyOn_gives date name date.weekday order.custom? shown
    rw [ran] at leaves
    generalize applies :
      view.applyOn handle date name date.weekday order.custom? = expected at leaves
    obtain ⟨result, after⟩ := expected
    obtain ⟨rfl, shown⟩ := leaves
    -- The answer reads the record again, so it must be seen that this is the one just written.
    obtain ⟨-, rfl, event, -, rfl⟩ := View.applyOn_ok applies
    have rows : ((view.marked date event).withRecord date
        (some ⟨date, name, Remap.flatten plan name⟩)).rowsOn date = Remap.flatten plan name := by
      rw [View.rowsOn, View.withRecord_recordOn_self]
      rfl
    obtain ⟨said, shows⟩ := answer_of_gives (appliedBody (!plan.isEmpty))
      (Engine.storedRemaps_gives date shown)
    rw [whole, always] at answered ⊢
    rw [said, View.storedRemaps, rows] at answered
    exact ⟨(Option.some.inj answered).symm, _, shows, rows⟩

end Http

namespace Session

theorem Shows.rows {session : Session} {view : View} (shown : session.Shows view) (date : Date) :
    Gives Session.Shows (session.run (.rows date)) (.rows (view.rowsOn date), view) :=
  shown.run fun shown => (Backend.Lawful.rows date shown).of _

/-- The same of an order that a session was sent. -/
theorem Shows.put_succeeds {session : Session} {view : View} {put : Http.Request} {date : Date}
    {order : Http.ApplyOrder} {response : Http.Response} (shown : session.Shows view)
    (orders : put.Orders date order)
    (answered : (session.run (.http put)).1 = .response response) (succeeded : response.Succeeds) :
    let name := String.ofList (Text.trim order.patternName.toList)
    let plan := Plan.preview name date.weekday order.custom?
    response =
        .ok (Http.appliedBody (!plan.isEmpty) (Remap.regroup (Remap.flatten plan name))) ∧
      ∃ after, (session.run (.http put)).2.Shows after ∧
        after.rowsOn date = Remap.flatten plan name := by
  cases session with
  | memory state => exact orders.succeeds shown (Outcome.eq_of_ofHttp answered) succeeded
  | tables inFile state => exact orders.succeeds shown (Outcome.eq_of_ofHttp answered) succeeded

/-- A preview is answered in any session with the plan for the name as it was typed. -/
theorem plan_of_preview {session : Session} {preview : Http.Request} {date : Date}
    {order : Http.ApplyOrder} {kind written : Json} {plan : List Remap}
    (previews : preview.Previews date order)
    (answered : (session.run (.http preview)).1 =
      .response (.ok (Http.previewBody kind plan written))) :
    plan = Plan.preview order.patternName date.weekday order.custom? := by
  have agree {σ : Type} [Backend σ] (state : σ)
      (handled : (Http.handle preview state).1 = some (.ok (Http.previewBody kind plan written))) :
      plan = Plan.preview order.patternName date.weekday order.custom? := by
    obtain ⟨_, _, given⟩ := previews.handle_eq state
    rw [given] at handled
    have body := Option.some.inj (congrArg Http.Response.body? (Option.some.inj handled))
    exact (Http.remaps_of_previewBody body).symm
  cases session with
  | memory state => exact agree state (Outcome.eq_of_ofHttp answered)
  | tables inFile state => exact agree state (Outcome.eq_of_ofHttp answered)

/-- What an order leaves is what a preview of it shows: the rows are those of the previewed
plan, the answer has what is regrouped from them, and it says that something was applied
exactly if the preview, and with it the answer, names a remap. -/
theorem stored_as_previewed {session other : Session} {put preview : Http.Request} {date : Date}
    {order : Http.ApplyOrder} {applied : Bool} {remaps plan : List Remap} {kind written : Json}
    (reachable : session.Reachable) (calm : session.faults = []) (orders : put.Orders date order)
    (previews : preview.Previews date order)
    (answered : (session.run (.http put)).1 = .response (.ok (Http.appliedBody applied remaps)))
    (previewed : (other.run (.http preview)).1 =
      .response (.ok (Http.previewBody kind plan written))) :
    let rows := Remap.flatten plan (String.ofList (Text.trim order.patternName.toList))
    ((session.run (.http put)).2.run (.rows date)).1 = .rows rows ∧
      remaps = Remap.regroup rows ∧ (applied = true ↔ plan ≠ []) ∧
      (applied = true ↔ remaps ≠ []) := by
  intro rows
  obtain ⟨view, shown⟩ := reachable.shows calm
  have planned := plan_of_preview previews previewed
  obtain ⟨said, after, shows, stored⟩ :=
    shown.put_succeeds orders answered (Http.Response.ok_succeeds _)
  -- The order worked with the trimmed name, the preview with the name as it was typed.
  rw [Plan.preview_trim, ← planned] at said stored
  have body := Option.some.inj (congrArg Http.Response.body? said)
  obtain ⟨rfl, rfl⟩ := Http.appliedBody_inj body
  have paired : ∀ remap ∈ plan, remap.pairs ≠ [] := by
    rw [planned]
    exact Plan.pairs_ne_nil_of_mem_preview _ _ _
  have applies : (!plan.isEmpty) = true ↔ plan ≠ [] := by simp
  refine ⟨?_, rfl, applies, applies.trans (not_congr ?_)⟩
  · rw [(shows.rows date).1, stored]
  · rw [Remap.regroup_eq_nil_iff, Plan.flatten_eq_nil_iff_of_pairs paired]

/-- An order for a sports day, with blanks around its name and around its notation. -/
def sportsDay : Http.ApplyOrder := ⟨" 体育祭 ", some " 月12→火34 "⟩

def sportsDayOrder : Http.Request :=
  sending "PUT" "/schedule/2025-01-06/special"
    "\x7b\"pattern_name\":\" 体育祭 \",\"custom_notation\":\" 月12→火34 \"\x7d"

def sportsDayPreview : Http.Request :=
  sending "POST" "/preview"
    "\x7b\"pattern_name\":\" 体育祭 \",\"date\":\"2025-01-06\",\"custom_notation\":\" 月12→火34 \"\x7d"

theorem sportsDay_orders : sportsDayOrder.Orders monday sportsDay :=
  ⟨rfl, ⟨"2025-01-06".toList, rfl, monday_inPath⟩, by rfl⟩

theorem sportsDay_previews : sportsDayPreview.Previews monday sportsDay :=
  ⟨rfl, by rfl, by rfl⟩

theorem stored_as_previewed_sportsDay :
    let plan := Mapping.read "月12→火34".toList
    emptyTables.Reachable ∧ emptyTables.faults = [] ∧
      sportsDayOrder.Orders monday sportsDay ∧ sportsDayPreview.Previews monday sportsDay ∧
      (emptyTables.run (.http sportsDayOrder)).1 =
        .response (.ok (Http.appliedBody true plan)) ∧
      (emptyMemory.run (.http sportsDayPreview)).1 = .response (.ok
        (Http.previewBody (Encode.kind .custom) plan (.text "月12→火34"))) ∧
      ((emptyTables.run (.http sportsDayOrder)).2.run (.rows monday)).1 =
        .rows (Remap.flatten plan "体育祭") := by
  intro plan
  have answered : (emptyTables.run (.http sportsDayOrder)).1 =
      .response (.ok (Http.appliedBody true plan)) := by
    show Outcome.ofHttp (Http.handle sportsDayOrder _).1 = _
    rw [sportsDay_orders.handle_eq]
    rfl
  have previewed : (emptyMemory.run (.http sportsDayPreview)).1 = .response (.ok
      (Http.previewBody (Encode.kind .custom) plan (.text "月12→火34"))) := by
    rfl
  obtain ⟨rows, -⟩ := stored_as_previewed reachable_emptyTables rfl sportsDay_orders
    sportsDay_previews answered previewed
  exact ⟨reachable_emptyTables, rfl, sportsDay_orders, sportsDay_previews, answered, previewed, rows⟩

end Session
end SchoolWeek
