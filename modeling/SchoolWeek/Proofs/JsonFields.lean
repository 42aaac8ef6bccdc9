import Mathlib
import SchoolWeek.Json.Decode
import SchoolWeek.Proofs.JsonReading
import SchoolWeek.Proofs.Utf8Text

/-! What a decoder that accepts a draft says of it, and which drafts it accepts. The fields of
an object are put together of single fields, so one law for each way to put fields together
serves every object; the checks made while the members go by refuse nothing that the values
put together at the end would not refuse. -/
namespace SchoolWeek.Json

variable {α β : Type} {value : α} {item : Draft}

namespace Decoder

variable {decoder : Decoder α}

theorem integer_eq_ok_iff {low high value : Int} :
    integer low high item = .ok value ↔
      item = .number (.whole value) ∧ low ≤ value ∧ value ≤ high := by
  unfold integer
  split
  · split_ifs with bounds
    · simp only [Except.ok.injEq, Draft.number.injEq, Number.whole.injEq]
      constructor
      · rintro rfl
        exact ⟨rfl, bounds⟩
      · exact And.left
    · simp only [Draft.number.injEq, Number.whole.injEq, false_iff, not_and]
      rintro rfl
      exact not_and.mp bounds
  · rename_i noWhole
    simp only [reduceCtorEq, false_iff, not_and]
    intro whole
    exact (noWhole value whole).elim

theorem byte_eq_ok_iff {number : Nat} :
    byte item = .ok number ↔ item = .number (.whole number) ∧ number ≤ 255 := by
  rw [byte]
  cases read : integer 0 255 item with
  | error error =>
    simp only [Except.map, reduceCtorEq, false_iff, not_and]
    intro whole fits
    have accepted : integer 0 255 item = .ok (number : Int) :=
      integer_eq_ok_iff.mpr ⟨whole, by omega, by omega⟩
    rw [read] at accepted
    cases accepted
  | ok value =>
    obtain ⟨rfl, bounds⟩ := integer_eq_ok_iff.mp read
    simp only [Except.map, Except.ok.injEq, Draft.number.injEq, Number.whole.injEq]
    omega

theorem checked_eq_ok_iff {test : α → Except DecodeError β} {result : β} :
    checked decoder test item = .ok result ↔
      ∃ value, decoder item = .ok value ∧ test value = .ok result := by
  rw [checked]
  cases decoder item <;> simp [Except.bind]

theorem mapM_eq_ok_iff {items : List Draft} {values : List α} :
    items.mapM decoder = .ok values ↔
      List.Forall₂ (fun item value => decoder item = .ok value) items values := by
  induction items generalizing values with
  | nil => simp [pure, Except.pure, eq_comm]
  | cons item items ih =>
    rw [List.mapM_cons]
    cases first : decoder item <;> cases others : items.mapM decoder <;>
      simp [List.forall₂_cons_left_iff, bind, Except.bind, pure, Except.pure, first, ← ih, others,
        eq_comm]

theorem list_eq_ok_iff {values : List α} :
    list decoder item = .ok values ↔ ∃ items, item = .array items true ∧
      List.Forall₂ (fun item value => decoder item = .ok value) items values := by
  cases item with
  | array items closed =>
    cases decoded : items.mapM decoder <;> cases closed <;>
      simp [list, decoded, ← mapM_eq_ok_iff, bind, Except.bind, pure, Except.pure, throw,
        throwThe, MonadExceptOf.throw]
  | _ => simp [list]

theorem complete_eq_ok_iff {text : Text.Gapped} :
    complete decoder text = .ok value ↔ decoder (read text).1 = .ok value ∧ (read text).2 = [] := by
  cases decoded : decoder (read text).1 <;> cases ended : (read text).2 <;>
    simp [complete, bind, Except.bind, pure, Except.pure, throw, throwThe, MonadExceptOf.throw,
      decoded, ended]

/-- A value that was written as bytes, on one line or over several, is read back from them. -/
theorem complete_written {json : Json} (decoded : decoder json.draft = .ok value)
    {written : List Char} (isWritten : written = json.compact ∨ written = json.pretty) :
    complete decoder (Text.decodeUtf8 (Text.encodeUtf8 written)) = .ok value := by
  have whole : read (written.map some) = (json.draft, []) := by
    rcases isWritten with rfl | rfl
    · exact read_compact json
    · exact read_pretty json
  refine complete_eq_ok_iff.mpr ?_
  rw [Text.decodeUtf8_encodeUtf8, whole]
  exact ⟨decoded, rfl⟩

end Decoder

namespace Fields

variable {fields : Fields α}

/-- The names of the fields in the order of declaration. -/
def names (fields : Fields α) : List String := fields.checks.map Prod.fst

/-- The values given to a field: those of the members with its name, or the one in its place. -/
def given (names : List String) (item : Draft) (name : String) : List Draft :=
  match item with
  | .object members _ => (members.filter (·.1 == some name)).map Prod.snd
  | .array items _ => ((names.zip items).filter (·.1 == name)).map Prod.snd
  | _ => []

theorem lookup_eq_head? {κ ι : Type} [BEq κ] [LawfulBEq κ] (key : κ) (list : List (κ × ι)) :
    list.lookup key = ((list.filter (·.1 == key)).map Prod.snd).head? := by
  induction list with
  | nil => rfl
  | cons first others ih =>
    by_cases same : first.1 = key
    · subst same
      simp [List.lookup]
    · have different : (first.1 == key) = false := by simpa using same
      have differs : (key == first.1) = false := by simpa using Ne.symm same
      rw [List.lookup, differs, ih, List.filter_cons, different]
      rfl

/-- The members or items pass their checks, and the first value given to each field is good. -/
theorem decoder_eq_ok_iff :
    fields.decoder item = .ok value ↔
      ((∃ members, item = .object members true ∧
          checkMembers fields.checks [] members = .ok ()) ∨
        ∃ items, item = .array items true ∧ checkItems fields.checks items = .ok ()) ∧
      fields.build (fun name => (given fields.names item name).head?) = .ok value := by
  cases item with
  | object members closed =>
    cases checked : checkMembers fields.checks [] members <;> cases closed <;>
      simp [decoder, given, lookup_eq_head?, checked, bind, Except.bind, throw, throwThe,
        MonadExceptOf.throw]
  | array items closed =>
    cases checked : checkItems fields.checks items <;> cases closed <;>
      simp [decoder, given, names, lookup_eq_head?, checked, bind, Except.bind, throw, throwThe,
        MonadExceptOf.throw]
  | _ => simp [decoder]

/-- A member is unknown and passed over, or it is met for the first time and passes its check. -/
theorem checkMembers_cons_iff {checks : List (String × Decoder Unit)} {met : List String}
    {name : String} {members : List (Option String × Draft)} :
    checkMembers checks met ((some name, item) :: members) = .ok () ↔
      (checks.lookup name = none ∧ item.isWhole ∧ checkMembers checks met members = .ok ()) ∨
        ∃ check, checks.lookup name = some check ∧ name ∉ met ∧ check item = .ok () ∧
          checkMembers checks (name :: met) members = .ok () := by
  rw [checkMembers]
  cases listed : checks.lookup name with
  | none => cases item.isWhole <;> simp
  | some check =>
    by_cases before : name ∈ met <;> cases passed : check item <;> simp [before, passed]

theorem exists_lookup {checks : List (String × Decoder Unit)} {name : String}
    (known : name ∈ checks.map Prod.fst) :
    ∃ check, checks.lookup name = some check ∧ (name, check) ∈ checks := by
  cases listed : checks.lookup name with
  | none =>
    obtain ⟨entry, inChecks, same⟩ := List.mem_map.mp known
    have unlisted := List.lookup_eq_none_iff.mp listed entry inChecks
    simp [same] at unlisted
  | some check =>
    obtain ⟨before, after, split, -⟩ := List.lookup_eq_some_iff.mp listed
    exact ⟨check, rfl, by simp [split]⟩

/-- A name of a field is met once at most. -/
theorem length_filter_le {checks : List (String × Decoder Unit)} {met : List String}
    {members : List (Option String × Draft)}
    (checked : checkMembers checks met members = .ok ()) {name : String}
    (known : name ∈ checks.map Prod.fst) :
    (members.filter (·.1 == some name)).length ≤ if name ∈ met then 0 else 1 := by
  -- Once a name was met there is no room for it in the members that are left.
  induction members generalizing met with
  | nil => simp
  | cons member members ih =>
    obtain ⟨_ | found, given⟩ := member
    · cases checked
    rcases checkMembers_cons_iff.mp checked with
      ⟨unlisted, -, later⟩ | ⟨check, -, notBefore, -, later⟩
    · have different : found ≠ name := by
        rintro rfl
        obtain ⟨check, listed, -⟩ := exists_lookup known
        cases unlisted.symm.trans listed
      simpa [different] using ih later
    · have others := ih later
      by_cases same : found = name
      · subst same
        rw [if_pos List.mem_cons_self] at others
        rw [List.filter_cons_of_pos (by simp), List.length_cons, if_neg notBefore]
        omega
      · simpa [same, Ne.symm same] using others

theorem length_given_le_one (distinct : fields.names.Nodup)
    (accepted : fields.decoder item = .ok value) {name : String} (known : name ∈ fields.names) :
    (given fields.names item name).length ≤ 1 := by
  obtain ⟨⟨members, rfl, checked⟩ | ⟨items, rfl, -⟩, -⟩ := decoder_eq_ok_iff.mp accepted
  · simpa [given] using length_filter_le checked known
  · have once : ((fields.names.zip items).map Prod.fst).Nodup := by
      rw [List.zip_eq_zip_take_min, List.map_fst_zip (by simp)]
      exact distinct.sublist (List.take_sublist ..)
    have count := List.nodup_iff_count_le_one.mp once name
    rw [List.count, List.countP_map, List.countP_eq_length_filter] at count
    rw [given, List.length_map]
    exact count

/-- An accepted object gives each field it uses once. -/
theorem given_of_accepted (distinct : fields.names.Nodup)
    (accepted : fields.decoder item = .ok value) {name : String} (known : name ∈ fields.names)
    {inner : Draft} (found : (given fields.names item name).head? = some inner) :
    given fields.names item name = [inner] := by
  have once := length_given_le_one distinct accepted known
  cases written : given fields.names item name with
  | nil =>
    rw [written] at found
    cases found
  | cons first others =>
    rw [written] at found once
    cases found
    rw [List.length_eq_zero_iff.mp (Nat.le_zero.mp (Nat.le_of_succ_le_succ once))]

section Building

variable {find : String → Option Draft} {name : String} {decoder : Decoder α}

@[simp]
theorem build_required_iff :
    (required name decoder).build find = .ok value ↔
      ∃ item, find name = some item ∧ decoder item = .ok value := by
  cases found : find name <;> simp [required, found]

@[simp]
theorem build_withDefault_iff {fallback : α} :
    (withDefault name decoder fallback).build find = .ok value ↔
      (find name = none ∧ value = fallback) ∨
        ∃ item, find name = some item ∧ decoder item = .ok value := by
  cases found : find name <;> simp [withDefault, found, eq_comm]

@[simp]
theorem build_map_iff {fields : Fields α} {function : α → β} {result : β} :
    (function <$> fields).build find = .ok result ↔
      ∃ value, fields.build find = .ok value ∧ function value = result := by
  show (fields.build find).bind (fun value => .ok (function value)) = _ ↔ _
  cases fields.build find <;> simp [Except.bind]

@[simp]
theorem build_seq_iff {function : Fields (α → β)} {argument : Fields α} {result : β} :
    (function <*> argument).build find = .ok result ↔
      ∃ apply value, function.build find = .ok apply ∧ argument.build find = .ok value ∧
        apply value = result := by
  show ((function.build find).bind fun apply =>
    (argument.build find).bind fun value => .ok (apply value)) = _ ↔ _
  cases function.build find <;> cases argument.build find <;> simp [Except.bind]

@[simp]
theorem names_required : (required name decoder).names = [name] := rfl

@[simp]
theorem names_withDefault {fallback : α} : (withDefault name decoder fallback).names = [name] := rfl

@[simp]
theorem build_optional_iff {value? : Option α} :
    (optional name decoder).build find = .ok value? ↔
      (find name = none ∧ value? = none) ∨
        ∃ item, find name = some item ∧ Decoder.optional decoder item = .ok value? :=
  build_withDefault_iff

@[simp]
theorem names_optional : (optional name decoder).names = [name] := rfl

@[simp]
theorem names_map {function : α → β} : (function <$> fields).names = fields.names := rfl

@[simp]
theorem names_seq {function : Fields (α → β)} {argument : Fields α} :
    (function <*> argument).names = function.names ++ argument.names :=
  List.map_append

/-- The checks refuse nothing that goes into the whole. -/
class Faithful (fields : Fields α) : Prop where
  passes {find : String → Option Draft} {value : α} (built : fields.build find = .ok value) :
    ∀ entry ∈ fields.checks, ∀ item, find entry.1 = some item → entry.2 item = .ok ()

theorem checkOf_eq_ok (decoded : decoder item = .ok value) : checkOf decoder item = .ok () := by
  rw [checkOf, decoded]
  rfl

instance faithful_required : Faithful (required name decoder) where
  passes built entry listed item found := by
    obtain rfl := List.mem_singleton.mp listed
    obtain ⟨other, same, decoded⟩ := build_required_iff.mp built
    obtain rfl := Option.some.inj (same.symm.trans found)
    exact checkOf_eq_ok decoded

instance faithful_withDefault {fallback : α} : Faithful (withDefault name decoder fallback) where
  passes built entry listed item found := by
    obtain rfl := List.mem_singleton.mp listed
    rcases build_withDefault_iff.mp built with ⟨missing, -⟩ | ⟨other, same, decoded⟩
    · cases missing.symm.trans found
    · obtain rfl := Option.some.inj (same.symm.trans found)
      exact checkOf_eq_ok decoded

instance faithful_optional : Faithful (optional name decoder) := faithful_withDefault

instance faithful_map [Faithful fields] {function : α → β} : Faithful (function <$> fields) where
  passes built entry listed := by
    obtain ⟨value, inner, -⟩ := build_map_iff.mp built
    exact Faithful.passes inner entry listed

instance faithful_seq {function : Fields (α → β)} {argument : Fields α} [Faithful function]
    [Faithful argument] : Faithful (function <*> argument) where
  passes built entry listed := by
    obtain ⟨apply, value, builtFirst, builtSecond, -⟩ := build_seq_iff.mp built
    rcases List.mem_append.mp listed with inFirst | inSecond
    · exact Faithful.passes builtFirst entry inFirst
    · exact Faithful.passes builtSecond entry inSecond

end Building

section Written

variable {members : List (String × Json)}

theorem lookup_memberDrafts (members : List (String × Json)) (name : String) :
    (memberDrafts members).lookup (some name) = (members.lookup name).map draft := by
  induction members with
  | nil => rfl
  | cons member members ih =>
    rw [memberDrafts, List.lookup, List.lookup, ih, Option.some_beq_some]
    cases name == member.1 <;> rfl

theorem lookup_eq_some_of_mem {κ ι : Type} [BEq κ] [LawfulBEq κ] {list : List (κ × ι)}
    (distinct : (list.map Prod.fst).Nodup) {entry : κ × ι} (member : entry ∈ list) :
    list.lookup entry.1 = some entry.2 := by
  obtain ⟨before, after, rfl⟩ := List.append_of_mem member
  refine List.lookup_eq_some_iff.mpr ⟨before, after, rfl, fun other here => ?_⟩
  rw [List.map_append, List.nodup_append] at distinct
  have different := distinct.2.2 other.1 (List.mem_map_of_mem here) entry.1 (by simp)
  simpa using Ne.symm different

theorem checkMembers_memberDrafts {checks : List (String × Decoder Unit)} {met : List String}
    (distinct : (members.map Prod.fst).Nodup) (fresh : ∀ member ∈ members, member.1 ∉ met)
    (passed : ∀ member ∈ members, ∃ check, checks.lookup member.1 = some check ∧
      check member.2.draft = .ok ()) :
    checkMembers checks met (memberDrafts members) = .ok () := by
  induction members generalizing met with
  | nil => rfl
  | cons member members ih =>
    obtain ⟨check, listed, good⟩ := passed member List.mem_cons_self
    obtain ⟨once, others⟩ := List.nodup_cons.mp distinct
    have notBefore := fresh member List.mem_cons_self
    refine checkMembers_cons_iff.mpr (.inr ⟨check, listed, notBefore, good, ih others ?_ ?_⟩)
    · intro other here
      have different : other.1 ≠ member.1 := fun same =>
        once (same ▸ List.mem_map_of_mem here)
      simp [different, fresh other (List.mem_cons_of_mem _ here)]
    · exact fun other here => passed other (List.mem_cons_of_mem _ here)

/-- An object with known members, none of them twice, is accepted for what its members make. -/
theorem decoder_draft [Faithful fields] (distinct : (members.map Prod.fst).Nodup)
    (known : ∀ member ∈ members, member.1 ∈ fields.names)
    (built : fields.build (fun name => (members.lookup name).map draft) = .ok value) :
    fields.decoder (draft (.object members)) = .ok value := by
  refine decoder_eq_ok_iff.mpr ⟨.inl ⟨_, rfl, ?_⟩, ?_⟩
  · refine checkMembers_memberDrafts distinct (fun _ _ => List.not_mem_nil) fun member here => ?_
    have found : (members.lookup member.1).map draft = some member.2.draft := by
      rw [lookup_eq_some_of_mem distinct here]
      rfl
    obtain ⟨check, listed, inChecks⟩ := exists_lookup (known member here)
    exact ⟨check, listed, Faithful.passes built _ inChecks _ found⟩
  · simpa only [draft, given, ← lookup_eq_head?, lookup_memberDrafts] using built

end Written

end Fields

end SchoolWeek.Json
