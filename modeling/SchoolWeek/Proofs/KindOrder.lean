import Mathlib
import SchoolWeek.Proofs.BlankEdges

/-! How the name of a pattern selects a kind. The kinds are gone through in a fixed order, and
the first one that the name has a word of is selected, whatever stands around the word, in
whichever case its letters are written and however often other words occur. It does not
matter how the name is put into lower case, as long as the letters of the words are. -/
namespace SchoolWeek

/-- In a list in order, what is found first comes before all others that could be found. -/
theorem find?_first {α : Type} {precedes : α → α → Prop} {wanted : α → Bool} {list : List α}
    {first other : α} (ordered : list.Pairwise precedes) (found : list.find? wanted = some first)
    (member : other ∈ list) (isWanted : wanted other = true) :
    other = first ∨ precedes first other := by
  obtain ⟨_, before, after, whole, passed⟩ := List.find?_eq_some_iff_append.mp found
  rw [whole] at member ordered
  obtain ⟨-, fromFirst, -⟩ := List.pairwise_append.mp ordered
  rcases List.mem_append.mp member with early | late
  · have unwanted := passed other early
    rw [isWanted] at unwanted
    cases unwanted
  · exact (List.mem_cons.mp late).imp_right ((List.pairwise_cons.mp fromFirst).1 other)

namespace Text

/-- The texts differ at most in the case of Latin letters. -/
def SameLetters (left right : List Char) : Prop := left.map Char.toLower = right.map Char.toLower

theorem allBlank_cons {character : Char} {text : List Char} :
    allBlank (character :: text) = true ↔ isBlank character = true ∧ allBlank text = true :=
  Bool.and_eq_true_iff

theorem trim_append_of_allBlank {before after : List Char} (blankBefore : allBlank before = true)
    (blankAfter : allBlank after = true) (text : List Char) :
    trim (before ++ text ++ after) = trim text := by
  have dropBefore : trim (before ++ text) = trim text := by
    induction before with
    | nil => rfl
    | cons blank before ih =>
      obtain ⟨isBlank, rest⟩ := allBlank_cons.mp blankBefore
      rw [List.cons_append, trim_cons_blank _ isBlank, ih rest]
  have dropAfter (text : List Char) : trim (text ++ after) = trim text := by
    induction after generalizing text with
    | nil => rw [List.append_nil]
    | cons blank after ih =>
      obtain ⟨isBlank, rest⟩ := allBlank_cons.mp blankAfter
      rw [List.append_cons, ih rest, trim_concat_blank _ isBlank]
  rw [dropAfter, dropBefore]

end Text

namespace Kind

/-- The place of a kind in the order in which they are gone through; custom is what is left. -/
def rank : Kind → Nat
  | shortA => 0
  | shortB => 1
  | shortC => 2
  | exam => 3
  | normal => 4
  | custom => 5

/-- The words that a kind is named by. -/
def words : Kind → List String
  | shortA => ["短縮A"]
  | shortB => ["短縮B"]
  | shortC => ["短縮C"]
  | exam => ["テスト", "試験"]
  | normal => ["通常"]
  | custom => []

/-- A word of the kind stands somewhere in the text, in either case. Any text may be custom. -/
def NamedIn (kind : Kind) (text : List Char) : Prop :=
  kind = custom ∨ ∃ word ∈ kind.words, ∃ part, part <:+: text ∧ Text.SameLetters part word.toList

theorem rank_injective : Function.Injective rank := by
  intro left right same
  cases left <;> cases right <;> first | rfl | cases same

theorem NamedIn.within {kind : Kind} {text whole : List Char} (named : kind.NamedIn text)
    (inside : text <:+: whole) : kind.NamedIn whole :=
  named.imp_right fun ⟨word, listed, part, found, same⟩ =>
    ⟨word, listed, part, found.trans inside, same⟩

/-- The keywords of a kind are its words in lower case. -/
theorem keywords_words : ∀ entry ∈ keywords, entry.1 ≠ custom ∧
    entry.2.map String.toList = entry.1.words.map fun word => word.toList.map Char.toLower := by
  decide

theorem exists_mem_keywords {kind : Kind} (hasWords : kind ≠ custom) :
    ∃ entry ∈ keywords, entry.1 = kind := by
  revert hasWords
  cases kind <;> decide

/-- An entry of the search table is met exactly where its kind is named. -/
theorem any_occurs_iff {entry : Kind × List String} (listed : entry ∈ keywords)
    (text : List Char) :
    entry.2.any (Text.occurs ·.toList (text.map Char.toLower)) = true ↔ entry.1.NamedIn text := by
  obtain ⟨notCustom, lowered⟩ := keywords_words entry listed
  calc entry.2.any (Text.occurs ·.toList (text.map Char.toLower)) = true
      ↔ ∃ key ∈ entry.2.map String.toList, key <:+: text.map Char.toLower := by
        simp [Text.occurs_iff]
    _ ↔ ∃ word ∈ entry.1.words, word.toList.map Char.toLower <:+: text.map Char.toLower := by
        rw [lowered]
        simp
    _ ↔ entry.1.NamedIn text := by
        simp only [NamedIn, notCustom, false_or, List.infix_map_iff, Text.SameLetters,
          eq_comm (a := List.map _ (String.toList _))]

theorem keywords_inOrder :
    keywords.Pairwise fun early late => early.1.rank < late.1.rank := by decide

theorem rank_le_custom (kind : Kind) : kind.rank ≤ custom.rank := by cases kind <;> decide

/-- A kind that is named is custom or has an entry that is met. -/
theorem NamedIn.entry_met {kind : Kind} {text : List Char} (named : kind.NamedIn text) :
    kind = custom ∨ ∃ entry ∈ keywords, entry.1 = kind ∧
      entry.2.any (Text.occurs ·.toList (text.map Char.toLower)) = true := by
  by_cases isCustom : kind = custom
  · exact .inl isCustom
  · obtain ⟨entry, listed, rfl⟩ := exists_mem_keywords isCustom
    exact .inr ⟨entry, listed, rfl, (any_occurs_iff listed text).mpr named⟩

/-- The search selects a kind that is named, and none that comes earlier is. -/
theorem ofPatternName_first (text : List Char) : (ofPatternName text).NamedIn text ∧
    ∀ kind : Kind, kind.NamedIn text → (ofPatternName text).rank ≤ kind.rank := by
  unfold ofPatternName
  dsimp only
  split
  · rename_i kind keys found
    have listed := List.mem_of_find?_eq_some found
    have met := List.find?_some found
    refine ⟨(any_occurs_iff listed text).mp met, fun other named => ?_⟩
    rcases named.entry_met with rfl | ⟨entry, isEntry, rfl, isMet⟩
    · exact rank_le_custom kind
    · rcases find?_first keywords_inOrder found isEntry isMet with rfl | later
      · exact le_rfl
      · exact later.le
  · rename_i missing
    refine ⟨.inl rfl, fun other named => ?_⟩
    rcases named.entry_met with rfl | ⟨entry, isEntry, rfl, isMet⟩
    · exact le_rfl
    · exact absurd isMet (List.find?_eq_none.mp missing entry isEntry)

/-- How a search for kinds goes on, whatever the text. -/
structure SelectsInOrder (select : List Char → Kind) : Prop where
  /-- The selected kind is the first one that is named. -/
  eq_iff {text : List Char} {kind : Kind} : select text = kind ↔
    kind.NamedIn text ∧ ∀ other : Kind, other.rank < kind.rank → ¬ other.NamedIn text
  /-- What stands around a text may only bring an earlier kind to the fore. -/
  inContext (before text after : List Char) :
    (select (before ++ text ++ after)).rank ≤ (select text).rank
  inEitherCase {text other : List Char} : Text.SameLetters text other → select other = select text
  atEdges {before after : List Char} (text : List Char) : Text.allBlank before = true →
    Text.allBlank after = true → select (before ++ text ++ after) = select text

theorem ofPatternName_selectsInOrder : SelectsInOrder ofPatternName where
  eq_iff {text kind} := by
    obtain ⟨named, first⟩ := ofPatternName_first text
    constructor
    · rintro rfl
      exact ⟨named, fun other earlier isNamed => (first other isNamed).not_gt earlier⟩
    · rintro ⟨isNamed, none⟩
      have notEarlier := fun earlier => none _ earlier named
      exact rank_injective (le_antisymm (first kind isNamed) (not_lt.mp notEarlier))
  inContext before text after :=
    (ofPatternName_first _).2 _ ((ofPatternName_first text).1.within ⟨before, after, rfl⟩)
  inEitherCase {text other} same := by
    rw [ofPatternName, ofPatternName, show other.map Char.toLower = text.map Char.toLower from
      same.symm]
  atEdges {before after} text blankBefore blankAfter := by
    rw [← ofPatternName_trim (before ++ text ++ after),
      Text.trim_append_of_allBlank blankBefore blankAfter, ofPatternName_trim]

/-- The characters that keywords are written in. -/
def letters : List Char := ['短', '縮', 'a', 'b', 'c', 'テ', 'ス', 'ト', '試', '験', '通', '常']

theorem keyword_subset_letters : ∀ entry ∈ keywords, ∀ keyword ∈ entry.2,
    keyword.toList ⊆ letters := by decide

/-- The second text is the first one in some lower case. A letter of a keyword, or the Latin
capital of one, becomes that letter. Any other character becomes any other characters, one at
least: how many and which may depend on where it stands. -/
inductive LowerCase : List Char → List Char → Prop
  | nil : LowerCase [] []
  | letter {character : Char} {text lowered : List Char} :
    character.toLower ∈ letters → LowerCase text lowered →
      LowerCase (character :: text) (character.toLower :: lowered)
  | other {character first : Char} {rest text lowered : List Char} :
    character.toLower ∉ letters → (∀ letter ∈ first :: rest, letter ∉ letters) →
      LowerCase text lowered → LowerCase (character :: text) (first :: rest ++ lowered)

/-- A word in keyword letters does not begin within other characters. -/
theorem infix_append_iff_of_foreign {letter : Char} {part other text : List Char}
    (isLetter : letter ∈ letters) (foreign : ∀ character ∈ other, character ∉ letters) :
    letter :: part <:+: other ++ text ↔ letter :: part <:+: text := by
  induction other with
  | nil => rfl
  | cons character other ih =>
    obtain ⟨different, rest⟩ := List.forall_mem_cons.mp foreign
    have notHere : ¬ letter :: part <+: character :: (other ++ text) := fun here =>
      different ((List.cons_prefix_cons.mp here).1 ▸ isLetter)
    rw [List.cons_append, List.infix_cons_iff, or_iff_right notHere, ih rest]

theorem LowerCase.prefix_iff {text lowered part : List Char} (lower : LowerCase text lowered)
    (written : part ⊆ letters) :
    part <+: lowered ↔ part <+: text.map Char.toLower := by
  induction lower generalizing part with
  | nil => rfl
  | @letter character text lowered isLetter _ ih =>
    cases part with
    | nil => simp
    | cons letter part =>
      rw [List.map_cons, List.cons_prefix_cons, List.cons_prefix_cons,
        ih (List.cons_subset.mp written).2]
  | @other character first rest text lowered notLetter foreign _ ih =>
    cases part with
    | nil => simp
    | cons letter part =>
      have isLetter := (List.cons_subset.mp written).1
      rw [List.map_cons, List.cons_append, List.cons_prefix_cons, List.cons_prefix_cons]
      refine iff_of_false (fun ⟨same, _⟩ => ?_) fun ⟨same, _⟩ => notLetter (same ▸ isLetter)
      exact foreign first List.mem_cons_self (same ▸ isLetter)

/-- A word in keyword letters stands in a text in lower case, whichever lower case it is, if it
stands in the text with its Latin letters in lower case. -/
theorem LowerCase.infix_iff {text lowered part : List Char} (lower : LowerCase text lowered)
    (written : part ⊆ letters) :
    part <:+: lowered ↔ part <:+: text.map Char.toLower := by
  cases part with
  | nil => simp
  | cons letter part =>
    have isLetter := (List.cons_subset.mp written).1
    induction lower with
    | nil => rfl
    | @letter character text lowered isKept rest ih =>
      rw [List.map_cons, List.infix_cons_iff, List.infix_cons_iff]
      exact or_congr ((LowerCase.letter isKept rest).prefix_iff written) ih
    | @other character first rest text lowered notLetter foreign _ ih =>
      have lone : ∀ other ∈ [character.toLower], other ∉ letters := by simpa using notLetter
      calc letter :: part <:+: first :: rest ++ lowered ↔ letter :: part <:+: lowered :=
            infix_append_iff_of_foreign isLetter foreign
        _ ↔ letter :: part <:+: text.map Char.toLower := ih
        _ ↔ letter :: part <:+: (character :: text).map Char.toLower :=
            (infix_append_iff_of_foreign isLetter lone).symm

theorem LowerCase.select_eq {text lowered : List Char} (lower : LowerCase text lowered) :
    selectLowered lowered = ofPatternName text :=
  selectLowered_congr fun entry listed keyword member => by
    rw [Bool.eq_iff_iff, Text.occurs_iff, Text.occurs_iff,
      lower.infix_iff (keyword_subset_letters entry listed keyword member)]

/-- In whatever lower case the names of patterns are searched, the first kind in order is
selected that a name has a word of. -/
theorem first_named_is_selected {lower : List Char → List Char}
    (lowers : ∀ text, LowerCase text (lower text)) :
    (∀ text, selectLowered (lower text) = ofPatternName text) ∧
      SelectsInOrder fun text => selectLowered (lower text) := by
  have same (text : List Char) : selectLowered (lower text) = ofPatternName text :=
    (lowers text).select_eq
  refine ⟨same, ?_⟩
  rw [show (fun text => selectLowered (lower text)) = ofPatternName from funext same]
  exact ofPatternName_selectsInOrder

/-- The lower case of a character in a table with letters outside ASCII: the capital with a dot
becomes two characters, and the sign for a kelvin becomes a Latin letter. -/
def lowerCaseOf (character : Char) : List Char :=
  if character = 'İ' then ['i', '\u0307']
  else if character = '\u212a' then ['k']
  else if character = 'Ａ' then ['ａ']
  else [character.toLower]

theorem lowerCase_lowerCaseOf (text : List Char) : LowerCase text (text.flatMap lowerCaseOf) := by
  induction text with
  | nil => exact .nil
  | cons character text ih =>
    rw [List.flatMap_cons, lowerCaseOf]
    split_ifs with dotted kelvin wide
    · exact .other (by rw [dotted]; decide) (by simp [letters]) ih
    · exact .other (by rw [kelvin]; decide) (by simp [letters]) ih
    · exact .other (by rw [wide]; decide) (by simp [letters]) ih
    · by_cases isLetter : character.toLower ∈ letters
      · exact .letter isLetter ih
      · exact .other isLetter (by simpa using isLetter) ih

theorem first_named_is_selected_dotted :
    (∀ text, LowerCase text (text.flatMap lowerCaseOf)) ∧
      selectLowered ("通常の試験İ短縮Ａ\u212a短縮b".toList.flatMap lowerCaseOf) = .shortB ∧
      SelectsInOrder fun text => selectLowered (text.flatMap lowerCaseOf) := by
  obtain ⟨same, inOrder⟩ := first_named_is_selected lowerCase_lowerCaseOf
  exact ⟨lowerCase_lowerCaseOf, (same _).trans (by decide), inOrder⟩

end Kind

end SchoolWeek
