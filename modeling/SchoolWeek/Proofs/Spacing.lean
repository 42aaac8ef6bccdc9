import Mathlib
import SchoolWeek.Console.Program
import SchoolWeek.Proofs.SegmentGrammar
import SchoolWeek.Proofs.Utf8Text

/-! White space in a notation. Spacing, the white space within lines, may be put in or left out
anywhere: a line is read by its characters that are not blank, and these stay the same, as do
the line feeds that part the lines. So it makes no difference that the console takes a notation
apart into words and joins them again, since no line that it is given has a line feed. -/
namespace SchoolWeek

namespace Text

/-- White space that does not end a line. -/
def isSpacing (character : Char) : Bool := isBlank character && character != '\n'

/-- The texts that come of a text when spacing is put in or taken out at any places. -/
inductive Respaced (text : List Char) : List Char → Prop
  | refl : Respaced text text
  | insert (before after : List Char) {space : Char} : isSpacing space = true →
    Respaced text (before ++ after) → Respaced text (before ++ space :: after)
  | delete (before after : List Char) {space : Char} : isSpacing space = true →
    Respaced text (before ++ space :: after) → Respaced text (before ++ after)

/-- The text without spacing. -/
def dense (text : List Char) : List Char := text.filter (!isSpacing ·)

/-- The text without white space. -/
def visible (text : List Char) : List Char := text.filter (!isBlank ·)

theorem dense_append (before after : List Char) :
    dense (before ++ after) = dense before ++ dense after := List.filter_append before after

theorem dense_cons_spacing {space : Char} (spacing : isSpacing space = true) (rest : List Char) :
    dense (space :: rest) = dense rest := List.filter_cons_of_neg (by simp [spacing])

theorem dense_cons {character : Char} (counts : isSpacing character = false) (rest : List Char) :
    dense (character :: rest) = character :: dense rest :=
  List.filter_cons_of_pos (by simp [counts])

theorem Respaced.dense_eq {text respaced : List Char} (spaced : Respaced text respaced) :
    dense respaced = dense text := by
  have without (before after : List Char) {space : Char} (spacing : isSpacing space = true) :
      dense (before ++ space :: after) = dense (before ++ after) := by
    rw [dense_append, dense_append, dense_cons_spacing spacing]
  induction spaced with
  | refl => rfl
  | insert before after spacing _ ih => exact (without before after spacing).trans ih
  | delete before after spacing _ ih => exact (without before after spacing).symm.trans ih

theorem visible_filter {keep : Char → Bool}
    (kept : ∀ character, isBlank character = false → keep character = true) (text : List Char) :
    visible (text.filter keep) = visible text := by
  rw [visible, List.filter_filter]
  refine List.filter_congr fun character _ => ?_
  cases blank : isBlank character with
  | true => rfl
  | false => rw [kept character blank, Bool.and_true]

theorem visible_dense (text : List Char) : visible (dense text) = visible text :=
  visible_filter (fun character seen => by rw [isSpacing, seen]; rfl) text

theorem visible_visible (text : List Char) : visible (visible text) = visible text :=
  visible_filter (fun character seen => by rw [seen]; rfl) text

theorem dense_visible (text : List Char) : dense (visible text) = visible text :=
  List.filter_eq_self.mpr fun character member => by
    have seen : isBlank character = false := by simpa using (List.mem_filter.mp member).2
    rw [isSpacing, seen]
    rfl

theorem dense_eq_visible {text : List Char} (oneLine : '\n' ∉ text) :
    dense text = visible text := by
  refine List.filter_congr fun character member => ?_
  have inside : (character != '\n') = true := bne_iff_ne.mpr fun feed => oneLine (feed ▸ member)
  rw [isSpacing, inside, Bool.and_true]

theorem visible_ignoresEdges : IgnoresEdges visible where
  first text isBlank := List.filter_cons_of_neg (by simp [isBlank])
  last text isBlank := by
    rw [visible, List.filter_append, List.filter_cons_of_neg (by simp [isBlank]), List.filter_nil,
      List.append_nil]
    rfl

/-- Characters that part nothing may be left out before or after a text is parted. -/
theorem split_filter {isSeparator keep : Char → Bool}
    (kept : ∀ character, isSeparator character = true → keep character = true)
    (text : List Char) :
    split isSeparator (text.filter keep) = (split isSeparator text).map (List.filter keep) := by
  induction text with
  | nil => rfl
  | cons character rest ih =>
    obtain ⟨part, parts, before, after⟩ := split_cons isSeparator character rest
    rw [before, List.map_cons] at ih
    rw [after]
    by_cases keeps : keep character = true
    · rw [List.filter_cons_of_pos keeps, split, ih]
      by_cases separates : isSeparator character = true
      · simp [separates]
      · simp [separates, keeps]
    · have inside : isSeparator character ≠ true :=
        fun separates => keeps (kept character separates)
      rw [List.filter_cons_of_neg keeps, ih, if_neg inside, List.map_cons,
        List.filter_cons_of_neg keeps]

theorem cut?_filter {separator : Char} {keep : Char → Bool} (kept : keep separator = true)
    (text : List Char) :
    cut? separator (text.filter keep) =
      (cut? separator text).map fun (before, after) => (before.filter keep, after.filter keep) := by
  induction text with
  | nil => rfl
  | cons character rest ih =>
    rw [cut?]
    split_ifs with same
    · rw [same, List.filter_cons_of_pos kept, cut?, if_pos rfl]
      rfl
    · by_cases keeps : keep character = true
      · rw [List.filter_cons_of_pos keeps, cut?, if_neg same, ih, Option.map_map, Option.map_map]
        refine congrArg (Option.map · _) (funext fun parts => ?_)
        simp [keeps]
      · rw [List.filter_cons_of_neg keeps, ih, Option.map_map]
        refine congrArg (Option.map · _) (funext fun parts => ?_)
        simp [keeps]

theorem trimEnd_cons {character : Char} (rest : List Char) (seen : isBlank character = false) :
    trimEnd (character :: rest) = character :: trimEnd rest := by
  rw [trimEnd, trimEnd, List.reverse_cons, List.dropWhile_append]
  split_ifs with blank
  · rw [List.isEmpty_iff.mp blank, List.dropWhile_cons_of_neg (by simp [seen])]
    rfl
  · rw [List.reverse_append, List.reverse_singleton, List.singleton_append]

/-- A trimmed text begins with the first character that is not blank. -/
theorem head?_trim (text : List Char) : (trim text).head? = (visible text).head? := by
  induction text with
  | nil => rfl
  | cons character rest ih =>
    cases blank : isBlank character with
    | true => rw [trim_cons_blank rest blank, ih, visible_ignoresEdges.first rest blank]
    | false =>
      rw [trim, trimStart, List.dropWhile_cons_of_neg (by simp [blank]), trimEnd_cons rest blank,
        visible, List.filter_cons_of_pos (by simp [blank]), List.head?_cons, List.head?_cons]

end Text

theorem periodsIn_visible (text : List Char) : periodsIn (Text.visible text) = periodsIn text := by
  rw [periodsIn, Text.visible, List.filterMap_filter]
  refine List.filterMap_congr fun character _ => ?_
  cases blank : Text.isBlank character with
  | true => exact (Period.ofDigit?_blank blank).symm
  | false => rfl

namespace Segment

theorem lettersOf_visible (text : List Char) : lettersOf (Text.visible text) = lettersOf text := by
  rw [lettersOf, Text.visible, List.filter_filter]
  refine List.filter_congr fun character _ => ?_
  by_cases member : character ∈ alphabet
  · simp [visible_of_mem_alphabet member]
  · simp [member]

theorem scan_visible (text : List Char) : scan (Text.visible text) = scan text := by
  rw [scan_eq, scan_eq, ← Parts.ofText_lettersOf, lettersOf_visible, Parts.ofText_lettersOf]

/-- A text is read as one segment by its first character and its digits. A glyph is no digit. -/
theorem read?_eq (text : List Char) :
    read? text = (text.head?.bind Weekday.ofGlyph?).map fun day => ⟨day, periodsIn text⟩ := by
  cases text with
  | nil => rfl
  | cons character rest =>
    rw [read?, List.head?_cons, Option.bind_some]
    cases named : Weekday.ofGlyph? character with
    | none => rfl
    | some day =>
      have noDigit : Period.ofDigit? character = none :=
        Weekday.ofGlyph?_eq_some_iff.mp named ▸ ofDigit?_glyph day
      rw [Option.map_some, Option.map_some, periodsIn, periodsIn, List.filterMap_cons_none noDigit]

theorem read?_trim (text : List Char) : read? (Text.trim text) = read? (Text.visible text) := by
  rw [read?_eq, read?_eq, Text.head?_trim, periodsIn_ignoresEdges.trim, periodsIn_visible]

end Segment

namespace Mapping

theorem readLine_visible (line : List Char) : readLine (Text.visible line) = readLine line := by
  rw [readLine, readLine, Text.visible, Text.cut?_filter (by decide)]
  cases Text.cut? arrow line with
  | none => rfl
  | some sides =>
    obtain ⟨left, right⟩ := sides
    rw [Option.map_some]
    dsimp only
    rw [← Text.visible, ← Text.visible, Segment.read?_trim, Segment.read?_trim,
      Text.visible_visible, Segment.scan_ignoresEdges.trim, Segment.scan_ignoresEdges.trim,
      Segment.scan_visible]

/-- A line is read by its characters that are not blank. -/
theorem readLine_trim (line : List Char) :
    readLine (Text.trim line) = readLine (Text.visible line) := by
  rw [← readLine_visible, Text.visible_ignoresEdges.trim]

theorem read_dense (text : List Char) : read (Text.dense text) = read text := by
  rw [read, read, Text.dense, Text.split_filter, List.flatMap_map]
  · refine List.flatMap_congr fun line _ => ?_
    rw [readLine_trim, readLine_trim, ← Text.dense, Text.visible_dense]
  · intro character feed
    simp [Text.isSpacing, beq_iff_eq.mp feed]

end Mapping

/-- A notation stands for the plan of the notation without spacing. -/
theorem Plan.ofNotation_dense (text : List Char) (day : Weekday) :
    ofNotation (Text.dense text) day = ofNotation text day := by
  have scanned : Segment.scan (Text.dense text) = Segment.scan text := by
    rw [← Segment.scan_visible, Text.visible_dense, Segment.scan_visible]
  have digits : periodsIn (Text.dense text) = periodsIn text := by
    rw [← periodsIn_visible, Text.visible_dense, periodsIn_visible]
  rw [ofNotation, ofNotation, sequential, sequential, bareDigits, bareDigits, Mapping.read_dense,
    scanned, digits]

namespace Text

theorem flatten_words (text : List Char) : (words text).flatten = visible text := by
  have parted : (split isBlank text).flatten = visible text := by
    induction text with
    | nil => rfl
    | cons character rest ih =>
      obtain ⟨part, parts, before, after⟩ := split_cons isBlank character rest
      rw [before] at ih
      rw [after]
      cases blank : isBlank character with
      | true => rw [visible_ignoresEdges.first rest blank, ← ih]; rfl
      | false =>
        rw [visible, List.filter_cons_of_pos (by simp [blank]), ← visible, ← ih]
        rfl
  rw [words, List.flatten_filter_not_isEmpty, parted]

/-- What is put between parts counts for nothing if it is filtered out. -/
theorem filter_intercalate {keep : Char → Bool} {separator : Char} (left : keep separator = false)
    (parts : List (List Char)) :
    ([separator].intercalate parts).filter keep = parts.flatten.filter keep := by
  induction parts with
  | nil => rfl
  | cons part parts ih =>
    cases parts with
    | nil => rw [List.intercalate_singleton, List.flatten_singleton]
    | cons next parts =>
      rw [List.intercalate_cons_cons, List.flatten_cons, List.append_assoc, List.filter_append,
        List.filter_append, List.filter_append, ih, List.filter_cons_of_neg (by simp [left])]
      rfl

theorem substitute_cons (old : Char) (new : List Char) (character : Char) (rest : List Char) :
    substitute old new (character :: rest) =
      (if character = old then new else [character]) ++ substitute old new rest := List.flatMap_cons

/-- A character that counts may be substituted before or after spacing is left out. -/
theorem dense_substitute {old : Char} (counts : isSpacing old = false) (new text : List Char) :
    dense (substitute old new text) = substitute old (dense new) (dense text) := by
  induction text with
  | nil => rfl
  | cons character rest ih =>
    rw [substitute_cons, dense_append, ih]
    split_ifs with same
    · rw [same, dense_cons counts, substitute_cons, if_pos rfl]
    · cases spacing : isSpacing character with
      | true => rw [dense_cons_spacing spacing, dense_cons_spacing spacing]; rfl
      | false => rw [dense_cons spacing, dense_cons spacing, substitute_cons, if_neg same]; rfl

end Text

namespace Console

/-- A notation in the words that the console made of it. -/
theorem dense_notationOf {argument : List Char} (oneLine : '\n' ∉ argument) :
    Text.dense (notationOf ((Text.words argument).map String.ofList)) =
      Text.dense (Text.substitute '|' ['\n'] argument) := by
  have words : (Text.words argument).map (String.toList ∘ String.ofList) = Text.words argument :=
    (List.map_congr_left fun word _ => String.toList_ofList).trans (List.map_id _)
  have sentence : (sentence ((Text.words argument).map String.ofList)).toList =
      [' '].intercalate (Text.words argument) := by
    rw [Console.sentence, String.toList_intercalate, List.map_map, words]
    rfl
  have joined : Text.dense ([' '].intercalate (Text.words argument)) = Text.dense argument := by
    rw [Text.dense, Text.filter_intercalate (by decide), Text.flatten_words, ← Text.dense,
      Text.dense_visible, Text.dense_eq_visible oneLine]
  rw [notationOf, sentence, Text.dense_substitute (by decide), joined,
    Text.dense_substitute (by decide)]

/-- A text that stands in a line that the console is given. -/
def IsTyped (argument : List Char) : Prop :=
  ∃ input line text, line ∈ inputLines input ∧ (Text.decodeUtf8 line).whole? = some text ∧
    argument <:+: text

theorem lineFeed_not_mem_of_inputLines {input line : List UInt8} (given : line ∈ inputLines input) :
    10 ∉ line := by
  induction input generalizing line with
  | nil => cases given
  | cons byte rest ih =>
    rw [inputLines] at given
    split_ifs at given with feed
    · rcases List.mem_cons.mp given with rfl | later
      · exact List.not_mem_nil
      · exact ih later
    · have inside : 10 ∉ [byte] := fun member => feed (List.mem_singleton.mp member).symm
      split at given
      · rw [List.mem_singleton.mp given]
        exact inside
      · rename_i first others whole
        rw [whole] at ih
        rcases List.mem_cons.mp given with rfl | later
        · rintro (_ | ⟨_, member⟩)
          · exact feed rfl
          · exact ih List.mem_cons_self member
        · exact ih (List.mem_cons_of_mem _ later)

theorem IsTyped.oneLine {argument : List Char} (typed : IsTyped argument) : '\n' ∉ argument := by
  obtain ⟨input, line, text, given, read, part⟩ := typed
  intro member
  refine lineFeed_not_mem_of_inputLines given (Text.lineFeed_mem_of_decodeUtf8 ?_)
  rw [Text.eq_map_of_whole? read]
  exact List.mem_map_of_mem (part.subset member)

end Console

namespace Plan

/-- Spacing put in or taken out at any places leaves what is read of a notation as it was, and so
does trimming it. The console may therefore split a notation at white space and join its words
with single spaces: with its bars turned into line feeds, it reads as it was typed. -/
theorem spacing_says_nothing (text : List Char) (day : Weekday) :
    (∀ respaced, Text.Respaced text respaced →
      Mapping.read respaced = Mapping.read text ∧ ofNotation respaced day = ofNotation text day) ∧
    ofNotation (Text.trim text) day = ofNotation text day ∧
    ∀ argument, Console.IsTyped argument →
      let joined := Console.notationOf ((Text.words argument).map String.ofList)
      let whole := Text.substitute '|' ['\n'] argument
      Mapping.read joined = Mapping.read whole ∧ ofNotation joined day = ofNotation whole day := by
  have readAlike {left right : List Char} (same : Text.dense left = Text.dense right) :
      Mapping.read left = Mapping.read right ∧ ofNotation left day = ofNotation right day := by
    rw [← Mapping.read_dense, same, Mapping.read_dense, ← ofNotation_dense, same, ofNotation_dense]
    exact ⟨rfl, rfl⟩
  refine ⟨fun respaced spaced => readAlike spaced.dense_eq, ofNotation_trim text day, ?_⟩
  exact fun argument typed => readAlike (Console.dense_notationOf typed.oneLine)

/-- An ideographic space, a carriage return that ends no line, and a bar with spaces around it. -/
theorem spacing_says_nothing_wide :
    let text := "月12→火34".toList
    let respaced := "月1\u30002\r→火34".toList
    let argument := "月1  2→火34 | 水5→木6".toList
    Text.Respaced text respaced ∧ Console.IsTyped argument ∧
      Mapping.read respaced = [⟨.monday, .tuesday, (Period.range 1 2).zip (Period.range 3 4)⟩] ∧
      Mapping.read (Console.notationOf ["月1", "2→火34", "|", "水5→木6"]) =
        Mapping.read text ++
          [⟨.wednesday, .thursday, (Period.range 5 5).zip (Period.range 6 6)⟩] := by
  intro text respaced argument
  have spaced : Text.Respaced text respaced :=
    .insert "月1\u30002".toList "→火34".toList (by decide)
      (.insert "月1".toList "2→火34".toList (by decide) .refl)
  have typed : Console.IsTyped argument :=
    ⟨Text.encodeUtf8 argument, Text.encodeUtf8 argument, argument, by
      rw [Text.encodeUtf8_eq]; decide, by rw [Text.decodeUtf8_encodeUtf8]; decide, List.infix_rfl⟩
  obtain ⟨respacedReads, -, retypedReads⟩ := spacing_says_nothing text .monday
  exact ⟨spaced, typed, (respacedReads respaced spaced).1.trans (by decide),
    (retypedReads argument typed).1.trans (by decide)⟩

end Plan
end SchoolWeek
