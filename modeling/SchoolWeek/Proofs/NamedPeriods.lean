import Mathlib
import SchoolWeek.Proofs.LinePairing
import SchoolWeek.Proofs.Reachable
import SchoolWeek.Proofs.SegmentGrammar

/-! When a text remaps anything. Every reading of a custom text pairs periods off that the text
names, so without a digit from 1 to 9 there is nothing to pair, and with one the last of the
readings is left if the others give nothing. An application answers accordingly: whether it has
anything to remap depends on the texts that it is given and on nothing that is stored. -/
namespace SchoolWeek

/-- A digit from 1 to 9 stands in the text. -/
def NamesPeriod (text : List Char) : Prop := ∃ character ∈ text, '1' ≤ character ∧ character ≤ '9'

theorem NamesPeriod.of_subset {part text : List Char} (names : NamesPeriod part)
    (inside : part ⊆ text) : NamesPeriod text := by
  obtain ⟨character, member, digit⟩ := names
  exact ⟨character, inside member, digit⟩

theorem Period.ofDigit?_isSome_iff {character : Char} :
    (ofDigit? character).isSome ↔ '1' ≤ character ∧ character ≤ '9' := by
  have bounds : '1' ≤ character ∧ character ≤ '9' ↔ 49 ≤ character.toNat ∧ character.toNat ≤ 57 :=
    Iff.rfl
  have zero : '0'.toNat = 48 := rfl
  rw [bounds, ofDigit?, ofNat?]
  split_ifs with inside
  · refine iff_of_true rfl ?_
    omega
  · refine iff_of_false (by simp) ?_
    omega

theorem periodsIn_eq_nil_iff {text : List Char} : periodsIn text = [] ↔ ¬ NamesPeriod text := by
  rw [periodsIn, List.filterMap_eq_nil_iff, NamesPeriod, not_exists]
  refine forall_congr' fun character => ?_
  rw [not_and, ← Period.ofDigit?_isSome_iff, Option.not_isSome_iff_eq_none]

namespace Text

theorem trim_subset (text : List Char) : trim text ⊆ text :=
  ((List.rdropWhile_prefix isBlank _).sublist.trans (List.dropWhile_sublist isBlank)).subset

theorem subset_of_mem_split {isSeparator : Char → Bool} {part text : List Char}
    (member : part ∈ split isSeparator text) : part ⊆ text := by
  induction text generalizing part with
  | nil =>
    rw [List.mem_singleton.mp member]
    exact List.nil_subset _
  | cons character rest ih =>
    obtain ⟨first, parts, before, after⟩ := split_cons isSeparator character rest
    rw [before] at ih
    rw [after] at member
    split_ifs at member
    · rcases List.mem_cons.mp member with rfl | later
      · exact List.nil_subset _
      · exact List.Subset.trans (ih later) (List.subset_cons_self _ _)
    · rcases List.mem_cons.mp member with rfl | later
      · exact List.cons_subset_cons _ (ih List.mem_cons_self)
      · exact List.Subset.trans (ih (List.mem_cons_of_mem _ later)) (List.subset_cons_self _ _)

end Text

theorem Segment.namesPeriod_of_scan {text : List Char} (found : scan text ≠ []) :
    NamesPeriod text := by
  by_contra unnamed
  have none := periodsIn_eq_nil_iff.mpr unnamed
  rw [Parts.periodsIn_eq, List.append_eq_nil_iff, List.flatMap_eq_nil_iff] at none
  refine found ?_
  rw [scan_eq]
  exact List.filter_eq_nil_iff.mpr fun block member => by simpa using none.2 block member

/-- A line that gives a remap has a segment with periods on the right. -/
theorem Mapping.namesPeriod_of_read {text : List Char} (found : read text ≠ []) :
    NamesPeriod text := by
  obtain ⟨remap, member⟩ := List.exists_mem_of_ne_nil _ found
  rw [read_eq] at member
  obtain ⟨sides, listed, -⟩ := List.mem_flatMap.mp member
  obtain ⟨line, inText, named⟩ := List.mem_filterMap.mp listed
  obtain ⟨left, right, digits, whole, -, -, -, targets, some⟩ := sides?_eq_some_iff.mp named
  rw [targets] at some
  have inLine : right ⊆ line := by
    refine List.Subset.trans ?_ (Text.trim_subset line)
    rw [whole]
    exact List.Subset.trans (List.subset_cons_self _ _) (List.subset_append_right _ _)
  rw [List.splitOn_eq_splitOnP, ← Text.split_eq_splitOnP] at inText
  exact (Segment.namesPeriod_of_scan some).of_subset
    (List.Subset.trans (Text.trim_subset right)
      (List.Subset.trans inLine (Text.subset_of_mem_split inText)))

namespace Plan

/-- A custom text stands for nothing exactly if it names no period. -/
theorem ofNotation_eq_nil_iff {text : List Char} {day : Weekday} :
    ofNotation text day = [] ↔ ¬ NamesPeriod text := by
  constructor
  · intro none
    rw [← periodsIn_eq_nil_iff]
    cases lines : Mapping.read text with
    | cons remap remaps => simp [ofNotation, lines] at none
    | nil =>
      cases filled : sequential text day with
      | cons remap remaps => simp [ofNotation, lines, filled] at none
      | nil =>
        cases digits : periodsIn text with
        | cons period periods => simp [ofNotation, lines, filled, bareDigits, digits] at none
        | nil => rfl
  · intro unnamed
    have lines : Mapping.read text = [] := by
      by_contra found
      exact unnamed (Mapping.namesPeriod_of_read found)
    have segments : Segment.scan text = [] := by
      by_contra found
      exact unnamed (Segment.namesPeriod_of_scan found)
    rw [ofNotation, lines, sequential, segments, fill, bareDigits, periodsIn_eq_nil_iff.mpr unnamed]

/-- What is given for a day, a pattern name and maybe a custom text, asks for no remap. -/
def AsksNothing (name : String) (custom? : Option String) : Prop :=
  (∃ custom, custom? = some custom ∧ Text.trim custom.toList ≠ [] ∧
    ¬ NamesPeriod (Text.trim custom.toList)) ∨
  (∀ custom, custom? = some custom → Text.trim custom.toList = []) ∧
    (Kind.ofPatternName name.toList = .normal ∨
      Kind.ofPatternName name.toList = .custom ∧ ¬ NamesPeriod name.toList)

theorem ofPatternName_eq_nil_iff {name : List Char} {day : Weekday} :
    ofPatternName name day = [] ↔
      Kind.ofPatternName name = .normal ∨
        Kind.ofPatternName name = .custom ∧ ¬ NamesPeriod name := by
  rw [ofPatternName]
  cases Kind.ofPatternName name with
  | normal => simp [ofKind]
  | custom => simp [ofKind, ofNotation_eq_nil_iff]
  | shortA | shortB | shortC | exam => simp [ofKind, Template.remaps]

theorem preview_eq_nil_iff {name : String} {day : Weekday} {custom? : Option String} :
    preview name day custom? = [] ↔ AsksNothing name custom? := by
  unfold preview AsksNothing
  cases custom? with
  | none => simp [effectiveCustom?, ofPatternName_eq_nil_iff]
  | some custom =>
    by_cases blank : Text.trim custom.toList = []
    · simp [effectiveCustom?, blank, ofPatternName_eq_nil_iff]
    · simp [effectiveCustom?, blank, ofNotation_eq_nil_iff]

end Plan

theorem Engine.flag_of_applyOn {σ : Type} [Backend σ] {date : Date} {name : String} {day : Weekday}
    {custom? : Option String} {state : σ} {flag : Bool}
    (applied : (applyOn date name day custom? state).1 = .ok flag) :
    flag = !(Plan.preview name day custom?).isEmpty := by
  unfold applyOn at applied
  dsimp only at applied
  split at applied
  · cases applied
  · split at applied
    · cases applied
    · exact (Except.ok.inj applied).symm

namespace Session

theorem flag_of_apply {session : Session} {date : Date} {name : String} {custom? : Option String}
    {flag : Bool} (answered : (session.run (.apply date name custom?)).1 = .flag flag) :
    flag = !(Plan.preview name date.weekday custom?).isEmpty := by
  have settled {result : Except ApplyError Bool} (same : Outcome.ofApply result = .flag flag) :
      result = .ok flag := by
    cases result with
    | error error => cases same
    | ok value => exact congrArg Except.ok (Outcome.flag.inj same)
  cases session with
  | memory state => exact Engine.flag_of_applyOn (settled answered)
  | tables inFile state => exact Engine.flag_of_applyOn (settled answered)

/-- A custom text stands for some remap exactly if a digit from 1 to 9 stands in it, and then
every remap pairs some periods. An application that succeeds, in whatever session, has nothing
to remap exactly if its custom text has no such digit, or if it has no custom text and its name
is one for normal days or one without a keyword and without such a digit. -/
theorem remaps_iff_names_period (text : List Char) (day : Weekday) :
    (Plan.ofNotation text day = [] ↔ ¬ NamesPeriod text) ∧
    (∀ remap ∈ Plan.ofNotation text day, remap.pairs ≠ []) ∧
    ∀ {session : Session} {date : Date} {name : String} {custom? : Option String} {flag : Bool},
      (session.run (.apply date name custom?)).1 = .flag flag →
        (flag = false ↔ Plan.AsksNothing name custom?) := by
  refine ⟨Plan.ofNotation_eq_nil_iff, Plan.pairs_ne_nil_of_mem_ofNotation text day, ?_⟩
  intro session date name custom? flag answered
  rw [flag_of_apply answered, ← Plan.preview_eq_nil_iff, Bool.not_eq_false', List.isEmpty_iff]

/-- A line without a source day, whose segment on the right is held from the first period on, and
a custom text whose only digits are a zero and a wide one. -/
theorem remaps_iff_names_period_neither :
    let text := "5月→火34".toList
    let custom? := some " 月0→火３ "
    (emptyTables.run (.apply monday "短縮A" custom?)).1 = .flag false ∧
      Plan.ofNotation text .monday =
        [⟨.tuesday, .monday, (Period.range 3 4).zip (Period.range 1 2)⟩] ∧
      NamesPeriod text ∧ Plan.AsksNothing "短縮A" custom? := by
  intro text custom?
  have answered : (emptyTables.run (.apply monday "短縮A" custom?)).1 = .flag false := by rfl
  have held : Plan.ofNotation text .monday =
      [⟨.tuesday, .monday, (Period.range 3 4).zip (Period.range 1 2)⟩] := by decide
  obtain ⟨none_iff, -, asks_iff⟩ := remaps_iff_names_period text .monday
  refine ⟨answered, held, ?_, (asks_iff answered).mp rfl⟩
  by_contra unnamed
  rw [none_iff.mpr unnamed] at held
  cases held

end Session
end SchoolWeek
