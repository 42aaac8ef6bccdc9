import Mathlib
import SchoolWeek.Json.Basic
import SchoolWeek.Json.Reader

/-! A JSON value that was written is read again, on one line or over several. The texts of the
two forms differ in white space between tokens only, so one law for each kind of value serves
both. Each law says what becomes of the text when any other text follows it that could not be
taken for more of a number. -/
namespace SchoolWeek.Json
open Lexeme

mutual

/-- The draft that a reader makes of the value. -/
def draft : Json → Draft
  | .null => .null
  | .bool value => .bool value
  | .number value => .number (.ofChars (Text.signedDecimal value))
  | .text value => .text (some value)
  | .array items => .array (drafts items) true
  | .object members => .object (memberDrafts members) true

def drafts : List Json → List Draft
  | [] => []
  | item :: items => draft item :: drafts items

def memberDrafts : List (String × Json) → List (Option String × Draft)
  | [] => []
  | (name, value) :: members => (some name, draft value) :: memberDrafts members

end

/-- A number that was begun does not go on here. -/
def EndsNumber : Text.Gapped → Prop
  | some character :: _ =>
    character.isDigit = false ∧ character ≠ '.' ∧ character ≠ 'e' ∧ character ≠ 'E'
  | _ => True

/-- The white space that is written between tokens. -/
def IsSpace (space : List Char) : Prop := ∀ character ∈ space, character = ' ' ∨ character = '\n'

theorem isSpace_nil : IsSpace [] := fun _ member => absurd member List.not_mem_nil

theorem isSpace_blank : IsSpace [' '] := fun _ member => .inl (List.mem_singleton.mp member)

variable {rest : Text.Gapped} {space ending : List Char}

section Tokens

/-- A character that is a token by itself, or none. -/
theorem tokensFrom_mark {character : Char} {finished : List Token}
    (mark : start (some character) = (finished, .between)) :
    tokensFrom .between (some character :: rest) = finished ++ tokensFrom .between rest := by
  rw [tokensFrom, step, mark]

theorem tokensFrom_space (isSpace : IsSpace space) :
    tokensFrom .between (space.map some ++ rest) = tokensFrom .between rest := by
  induction space with
  | nil => rfl
  | cons first others ih =>
    have white : start (some first) = ([], .between) := by
      rcases isSpace first (by simp) with rfl | rfl <;> rfl
    rw [List.map_cons, List.cons_append, tokensFrom_mark white]
    exact ih fun character member => isSpace character (List.mem_cons_of_mem first member)

theorem endsNumber_space (isSpace : IsSpace space) (ends : EndsNumber rest) :
    EndsNumber (space.map some ++ rest) := by
  cases space with
  | nil => exact ends
  | cons first others =>
    rcases isSpace first (by simp) with rfl | rfl <;> exact ⟨by decide, by decide⟩

theorem hexValue?_hexDigit {value : Nat} (small : value < 16) :
    Text.hexValue? (hexDigit value) = some value := by
  have all : ∀ value < 16, Text.hexValue? (hexDigit value) = some value := by decide
  exact all value small

theorem tokensFrom_hexDigit (pieces : List Piece) (missing value : Nat) {digit : Nat}
    (small : digit < 16) :
    tokensFrom (.unit pieces (missing + 2) value) (some (hexDigit digit) :: rest) =
      tokensFrom (.unit pieces (missing + 1) (value * 16 + digit)) rest := by
  rw [tokensFrom, step, insideUnit, hexValue?_hexDigit small]
  simp

theorem tokensFrom_lastHexDigit (pieces : List Piece) (value : Nat) {digit : Nat}
    (small : digit < 16) :
    tokensFrom (.unit pieces 1 value) (some (hexDigit digit) :: rest) =
      tokensFrom (.string (.unit (value * 16 + digit) :: pieces)) rest := by
  rw [tokensFrom, step, insideUnit, hexValue?_hexDigit small]
  simp

theorem insideString_plain (pieces : List Piece) {character : Char} (noQuote : character ≠ '"')
    (noBackslash : character ≠ '\\') (noControl : ¬character.toNat < 32) :
    insideString pieces (some character) = ([], .string (.character character :: pieces)) := by
  unfold insideString
  split
  · contradiction
  · rename_i same
    exact (noQuote (Option.some.inj same)).elim
  · rename_i same
    exact (noBackslash (Option.some.inj same)).elim
  · rename_i same
    cases same
    exact if_neg noControl

/-- The pieces, which are kept last first, spell a text whatever comes after them. -/
def Spells (pieces : List Piece) (text : List Char) : Prop :=
  ∀ more, Piece.spell (pieces.reverse ++ more) = (Piece.spell more).map (text ++ ·)

theorem spells_cons {pieces : List Piece} {text : List Char} {piece : Piece} {character : Char}
    (spelt : Spells pieces text)
    (next : ∀ more, Piece.spell (piece :: more) = (Piece.spell more).map (character :: ·)) :
    Spells (piece :: pieces) (text ++ [character]) := by
  intro more
  rw [List.reverse_cons, List.append_assoc, List.singleton_append, spelt, next, Option.map_map]
  congr 1
  funext tail
  simp

/-- A unit outside the surrogates is a character by itself. -/
theorem spell_unit {value : Nat} (small : value < 0xD800) (more : List Piece) :
    Piece.spell (.unit value :: more) = (Piece.spell more).map (Char.ofNat value :: ·) := by
  cases more with
  | nil => simp [Piece.spell, small]
  | cons piece others => cases piece <;> simp [Piece.spell, small]

/-- A character that was written inside quotes adds one piece, which spells it. -/
theorem tokensFrom_escaped (pieces : List Piece) (character : Char) : ∃ piece,
    (∀ rest, tokensFrom (.string pieces) ((escaped character).map some ++ rest) =
      tokensFrom (.string (piece :: pieces)) rest) ∧
    ∀ more, Piece.spell (piece :: more) = (Piece.spell more).map (character :: ·) := by
  have spells (value : Char) (more : List Piece) :
      Piece.spell (.character value :: more) = (Piece.spell more).map (value :: ·) := by
    rw [Piece.spell]
  unfold escaped
  split_ifs with isQuote isBackslash isLine isReturn isTab isBackspace isFeed isControl
  · exact ⟨.character '"', fun _ => rfl, isQuote ▸ spells '"'⟩
  · exact ⟨.character '\\', fun _ => rfl, isBackslash ▸ spells '\\'⟩
  · exact ⟨.character '\n', fun _ => rfl, isLine ▸ spells '\n'⟩
  · exact ⟨.character '\r', fun _ => rfl, isReturn ▸ spells '\r'⟩
  · exact ⟨.character '\t', fun _ => rfl, isTab ▸ spells '\t'⟩
  · obtain rfl : character = '\x08' := Char.ext (UInt32.toNat_inj.mp isBackspace)
    exact ⟨.character '\x08', fun _ => rfl, spells '\x08'⟩
  · obtain rfl : character = '\x0c' := Char.ext (UInt32.toNat_inj.mp isFeed)
    exact ⟨.character '\x0c', fun _ => rfl, spells '\x0c'⟩
  · have code : ((0 * 16 + 0) * 16 + 0 + character.toNat / 16) * 16 + character.toNat % 16 =
        character.toNat := by omega
    refine ⟨.unit character.toNat, fun rest => ?_, fun more => ?_⟩
    · -- The escape has four digits, of which the first two are zero.
      show tokensFrom (.unit pieces 4 0) (some (hexDigit 0) :: some (hexDigit 0) ::
        some (hexDigit (character.toNat / 16)) ::
        some (hexDigit (character.toNat % 16)) :: rest) = _
      rw [tokensFrom_hexDigit pieces 2 0 (by omega), tokensFrom_hexDigit pieces 1 _ (by omega),
        tokensFrom_hexDigit pieces 0 _ (by omega),
        tokensFrom_lastHexDigit pieces _ (by omega), code]
    · rw [spell_unit (by omega), Char.ofNat_toNat]
  · refine ⟨.character character, fun rest => ?_, spells character⟩
    rw [List.map_singleton, List.singleton_append, tokensFrom, step,
      insideString_plain pieces isQuote isBackslash isControl]
    rfl

theorem tokensFrom_inside {pieces : List Piece} {before : List Char}
    (spelt : Spells pieces before) (text : List Char) (rest : Text.Gapped) :
    tokensFrom (.string pieces) ((text.flatMap escaped ++ ['"']).map some ++ rest) =
      .text (some (String.ofList (before ++ text))) :: tokensFrom .between rest := by
  -- The pieces so far spell the text so far, which the closing quote makes the token of.
  induction text generalizing pieces before with
  | nil =>
    have whole := spelt []
    rw [List.append_nil] at whole
    show [.text ((Piece.spell pieces.reverse).map String.ofList)] ++ tokensFrom .between rest = _
    rw [whole]
    rfl
  | cons character text ih =>
    obtain ⟨piece, lexed, spells⟩ := tokensFrom_escaped pieces character
    rw [List.flatMap_cons, List.append_assoc, List.map_append, List.append_assoc, lexed,
      ih (spells_cons spelt spells), List.append_assoc, List.singleton_append]

theorem tokensFrom_quoted (text : String) :
    tokensFrom .between ((quoted text).map some ++ rest) =
      .text (some text) :: tokensFrom .between rest := by
  have nothing : Spells [] [] := fun more => by simp
  have inside := tokensFrom_inside nothing text.toList rest
  rw [List.nil_append, String.ofList_toList] at inside
  rw [← inside]
  rfl

/-- Digits go on with a number that was begun. -/
theorem tokensFrom_digits {characters digits : List Char}
    (isDigit : ∀ character ∈ digits, character.isDigit = true) :
    tokensFrom (.number .whole characters) (digits.map some ++ rest) =
      tokensFrom (.number .whole (digits.reverse ++ characters)) rest := by
  induction digits generalizing characters with
  | nil => rfl
  | cons first others ih =>
    have digit := isDigit first (by simp)
    have goesOn : Phase.whole.next? first = some .whole := by simp [Phase.next?, digit]
    rw [List.map_cons, List.cons_append, tokensFrom, step, insideNumber, Option.bind_some, goesOn]
    show tokensFrom (.number .whole (first :: characters)) _ = _
    rw [ih fun character member => isDigit character (List.mem_cons_of_mem first member)]
    simp

/-- A whole number ends where nothing goes on with it. -/
theorem tokensFrom_endOfNumber {phase : Phase} {characters : List Char} (ends : EndsNumber rest)
    (mayEnd : phase = .zero ∨ phase = .whole) :
    tokensFrom (.number phase characters) rest =
      .number (.ofChars characters.reverse) :: tokensFrom .between rest := by
  have spaced : phase.mayEnd ' ' = true := by rcases mayEnd with rfl | rfl <;> rfl
  cases rest with
  | nil => rw [tokensFrom, finish, if_pos spaced]; rfl
  | cons first others =>
    cases first with
    | none =>
      rw [tokensFrom, step, insideNumber]
      simp [spaced, tokensFrom, step]
    | some character =>
      obtain ⟨noDigit, noPoint, noMark, noCapital⟩ := ends
      have stuck : phase.next? character = none := by
        rcases mayEnd with rfl | rfl <;> simp [Phase.next?, noDigit, noPoint, noMark, noCapital]
      have ended : phase.mayEnd character = true := by
        rcases mayEnd with rfl | rfl <;> simp [Phase.mayEnd, noDigit]
      rw [tokensFrom, step, insideNumber, Option.bind_some, stuck]
      simp [ended, tokensFrom, step]

theorem tokensFrom_whole {characters digits : List Char}
    (isDigit : ∀ character ∈ digits, character.isDigit = true) (ends : EndsNumber rest) :
    tokensFrom (.number .whole characters) (digits.map some ++ rest) =
      .number (.ofChars (characters.reverse ++ digits)) :: tokensFrom .between rest := by
  rw [tokensFrom_digits isDigit, tokensFrom_endOfNumber ends (.inr rfl), List.reverse_append,
    List.reverse_reverse]

/-- Only zero is written with a leading zero. -/
theorem head?_decimal {number : Nat} (positive : 0 < number) :
    (Text.decimal number).head? ≠ some '0' := by
  induction number using Nat.strong_induction_on with
  | _ number ih =>
    by_cases short : number < 10
    · rw [Text.decimal, Nat.toDigits_of_lt_base short]
      interval_cases number <;> decide
    · rw [Text.decimal, Nat.toDigits_of_base_le (by decide) (by omega),
        List.head?_append_of_ne_nil _ Nat.toDigits_ne_nil]
      exact ih (number / 10) (by omega) (by omega)

theorem decimal_eq_cons {number : Nat} (positive : 0 < number) : ∃ first others,
    Text.decimal number = first :: others ∧ first ≠ '0' ∧ first.isDigit = true ∧
      ∀ character ∈ others, character.isDigit = true := by
  have noZero := head?_decimal positive
  have isDigit : ∀ character ∈ Text.decimal number, character.isDigit = true :=
    fun _ member => Text.isDigit_of_mem_decimal member
  cases written : Text.decimal number with
  | nil => exact (Text.decimal_ne_nil number written).elim
  | cons first others =>
    rw [written] at noZero isDigit
    exact ⟨first, others, rfl, fun zero => noZero (congrArg some zero), isDigit first (by simp),
      fun character member => isDigit character (List.mem_cons_of_mem first member)⟩

theorem start_digit {character : Char} (digit : character.isDigit = true)
    (noZero : character ≠ '0') :
    start (some character) = ([], .number .whole [character]) := by
  unfold start
  dsimp only
  split <;> first | contradiction | exact if_pos digit

theorem tokensFrom_signedDecimal (value : Int) (ends : EndsNumber rest) :
    tokensFrom .between ((Text.signedDecimal value).map some ++ rest) =
      .number (.ofChars (Text.signedDecimal value)) :: tokensFrom .between rest := by
  cases value with
  | ofNat number =>
    rcases Nat.eq_zero_or_pos number with rfl | positive
    · exact tokensFrom_endOfNumber ends (.inl rfl)
    obtain ⟨first, others, written, noZero, digit, digits⟩ := decimal_eq_cons positive
    rw [Text.signedDecimal, written, List.map_cons, List.cons_append, tokensFrom, step,
      start_digit digit noZero]
    exact tokensFrom_whole digits ends
  | negSucc number =>
    obtain ⟨first, others, written, noZero, digit, digits⟩ := decimal_eq_cons number.succ_pos
    have goesOn : Phase.sign.next? first = some .whole := by simp [Phase.next?, digit, noZero]
    rw [Text.signedDecimal, written, List.map_cons, List.cons_append]
    show tokensFrom (.number .sign ['-']) _ = _
    rw [List.map_cons, List.cons_append, tokensFrom, step, insideNumber, Option.bind_some, goesOn]
    exact tokensFrom_whole digits ends

end Tokens

section Numbers

theorem span_decimal (number : Nat) :
    (Text.decimal number).span Char.isDigit = (Text.decimal number, []) := by
  have isDigit : ∀ character ∈ Text.decimal number, character.isDigit = true :=
    fun _ member => Text.isDigit_of_mem_decimal member
  rw [List.span_eq_takeWhile_dropWhile, List.takeWhile_eq_self_iff.mpr isDigit,
    List.dropWhile_eq_nil_iff.mpr isDigit]

theorem ofChars_decimal {number : Nat} (fits : number < 2 ^ 64) :
    Number.ofChars (Text.decimal number) = .whole number := by
  have unsigned : (Text.decimal number).head? ≠ some '-' := fun signed =>
    absurd (Text.isDigit_of_mem_decimal (List.mem_of_head? signed)) (by decide)
  simp only [Number.ofChars, if_neg unsigned, span_decimal, Text.ofDigits_decimal,
    List.isEmpty_nil, ↓reduceIte]
  exact if_pos fits

/-- The numbers of 64 bits, signed or not, are whole to a reader. -/
theorem ofChars_signedDecimal {value : Int} (low : -2 ^ 63 ≤ value) (high : value < 2 ^ 64) :
    Number.ofChars (Text.signedDecimal value) = .whole value := by
  cases value with
  | ofNat number => exact ofChars_decimal (Int.ofNat_lt.mp high)
  | negSucc number =>
    have fits : 0 < number + 1 ∧ number + 1 ≤ Nat.pow 2 63 := by
      refine ⟨by omega, ?_⟩
      show number + 1 ≤ 2 ^ 63
      omega
    simp only [Text.signedDecimal, Number.ofChars, List.head?_cons, List.drop_succ_cons,
      List.drop_zero, span_decimal, Text.ofDigits_decimal, List.isEmpty_nil, ↓reduceIte]
    exact if_pos fits

end Numbers

section Reading
open Reading

/-- The text is read as the draft wherever a value is due. -/
def Writes (draft : Draft) (text : List Char) : Prop :=
  ∀ due stack rest, due = .value ∨ due = .firstItem → EndsNumber rest →
    readFrom (.inside due stack) (tokensFrom .between (text.map some ++ rest)) =
      readFrom (deliver draft stack) (tokensFrom .between rest)

/-- The text is read as the member wherever a name is due. -/
def WritesMember (member : Option String × Draft) (text : List Char) : Prop :=
  ∀ due members name? stack rest, due = .name ∨ due = .firstName → EndsNumber rest →
    readFrom (.inside due (.object members name? :: stack))
        (tokensFrom .between (text.map some ++ rest)) =
      readFrom (.inside .separator (.object (member :: members) member.1 :: stack))
        (tokensFrom .between rest)

theorem writes_token {token : Token} {value : Draft} {text : List Char}
    (lexed : ∀ rest, EndsNumber rest →
      tokensFrom .between (text.map some ++ rest) = token :: tokensFrom .between rest)
    (delivered : ∀ stack, onValue stack token = some (deliver value stack)) :
    Writes value text := by
  intro due stack rest isDue ends
  have noClose : token ≠ .closeBracket := by
    rintro rfl
    cases delivered stack
  have taken : step? due stack token = some (deliver value stack) := by
    rcases isDue with rfl | rfl
    · exact delivered stack
    · rw [step?, if_neg noClose, delivered]
  rw [lexed rest ends, readFrom, taken]

theorem Writes.member {value : Draft} {text : List Char} (written : Writes value text)
    (name : String) {space : List Char} (isSpace : IsSpace space) :
    WritesMember (some name, value) (quoted name ++ ':' :: (space ++ text)) := by
  intro due members name? stack rest isDue ends
  have named : step? due (.object members name? :: stack) (.text (some name)) =
      some (.inside .colon (.object members (some name) :: stack)) := by
    rcases isDue with rfl | rfl <;> rfl
  have colon : start (some ':') = ([.colon], .between) := rfl
  rw [List.map_append, List.append_assoc, tokensFrom_quoted, readFrom, named]
  dsimp only
  rw [List.map_cons, List.cons_append, tokensFrom_mark colon, List.singleton_append, readFrom,
    step?, if_pos rfl]
  dsimp only
  rw [List.map_append, List.append_assoc, tokensFrom_space isSpace,
    written .value _ rest (.inl rfl) ends]
  rfl

theorem joined_cons (separator first : List Char) (others : List (List Char)) :
    joined separator (first :: others) = first ++ others.flatMap (separator ++ ·) := by
  induction others generalizing first with
  | nil => simp [joined, List.intercalate]
  | cons second others ih =>
    have longer : joined separator (first :: second :: others) =
        first ++ (separator ++ joined separator (second :: others)) := by
      simp [joined, List.intercalate]
    rw [longer, ih, List.flatMap_cons, List.append_assoc]

/-- What follows a part of a container: the other parts, each behind a comma, and the bracket. -/
def others (space ending : List Char) (last : Char) (texts : List (List Char)) : List Char :=
  texts.flatMap (',' :: space ++ ·) ++ (ending ++ [last])

theorem endsNumber_others {last : Char} (space : List Char) (isEnding : IsSpace ending)
    (texts : List (List Char)) (isBracket : last = ']' ∨ last = '\x7d') (rest : Text.Gapped) :
    EndsNumber ((others space ending last texts).map some ++ rest) := by
  have bracket : EndsNumber (some last :: rest) := by
    rcases isBracket with rfl | rfl <;> exact ⟨by decide, by decide⟩
  cases texts with
  | nil =>
    rw [others, List.flatMap_nil, List.nil_append, List.map_append, List.append_assoc]
    exact endsNumber_space isEnding bracket
  | cons text texts => exact ⟨by decide, by decide⟩

theorem tokensFrom_ending {last : Char} {close : Token} (isEnding : IsSpace ending)
    (mark : start (some last) = ([close], .between)) :
    tokensFrom .between ((others space ending last []).map some ++ rest) =
      close :: tokensFrom .between rest := by
  rw [others, List.flatMap_nil, List.nil_append, List.map_append, List.append_assoc,
    tokensFrom_space isEnding]
  exact tokensFrom_mark mark

theorem tokensFrom_comma {last : Char} {text : List Char} {texts : List (List Char)}
    (isSpace : IsSpace space) :
    tokensFrom .between ((others space ending last (text :: texts)).map some ++ rest) =
      .comma :: tokensFrom .between
        (text.map some ++ ((others space ending last texts).map some ++ rest)) := by
  have comma : start (some ',') = ([.comma], .between) := rfl
  rw [others, List.flatMap_cons, List.append_assoc, ← others, List.map_append, List.append_assoc,
    List.cons_append, List.map_cons, List.cons_append, tokensFrom_mark comma, List.map_append,
    List.append_assoc, tokensFrom_space isSpace]
  rfl

theorem readFrom_items {drafts : List Draft} {texts : List (List Char)}
    (written : List.Forall₂ Writes drafts texts) (isSpace : IsSpace space)
    (isEnding : IsSpace ending) (items : List Draft) (stack : List Open) :
    readFrom (.inside .separator (.array items :: stack))
        (tokensFrom .between ((others space ending ']' texts).map some ++ rest)) =
      readFrom (deliver (.array (items.reverse ++ drafts) true) stack)
        (tokensFrom .between rest) := by
  induction written generalizing items with
  | nil =>
    rw [tokensFrom_ending isEnding rfl, List.append_nil]
    rfl
  | @cons draft text drafts texts first _ ih =>
    have ends := endsNumber_others space isEnding texts (.inl rfl) rest
    rw [tokensFrom_comma isSpace]
    show readFrom (.inside .value (.array items :: stack)) _ = _
    rw [first .value _ _ (.inl rfl) ends]
    show readFrom (.inside .separator (.array (draft :: items) :: stack)) _ = _
    rw [ih, List.reverse_cons, List.append_assoc, List.singleton_append]

theorem readFrom_members {drafts : List (Option String × Draft)} {texts : List (List Char)}
    (written : List.Forall₂ WritesMember drafts texts) (isSpace : IsSpace space)
    (isEnding : IsSpace ending) (members : List (Option String × Draft)) (name? : Option String)
    (stack : List Open) :
    readFrom (.inside .separator (.object members name? :: stack))
        (tokensFrom .between ((others space ending '\x7d' texts).map some ++ rest)) =
      readFrom (deliver (.object (members.reverse ++ drafts) true) stack)
        (tokensFrom .between rest) := by
  induction written generalizing members name? with
  | nil =>
    rw [tokensFrom_ending isEnding rfl, List.append_nil]
    rfl
  | @cons member text drafts texts first _ ih =>
    have ends := endsNumber_others space isEnding texts (.inr rfl) rest
    rw [tokensFrom_comma isSpace]
    show readFrom (.inside .name (.object members name? :: stack)) _ = _
    rw [first .name _ _ _ _ (.inl rfl) ends, ih, List.reverse_cons, List.append_assoc,
      List.singleton_append]

/-- A container: a bracket, then its parts with the same white space in front of each. -/
def container (first last : Char) (space ending : List Char) : List (List Char) → List Char
  | [] => first :: (space ++ others space ending last [])
  | part :: parts => first :: (space ++ (part ++ others space ending last parts))

theorem container_eq (first last : Char) (space ending : List Char) (texts : List (List Char)) :
    first :: space ++ joined (',' :: space) texts ++ ending ++ [last] =
      container first last space ending texts := by
  cases texts with
  | nil => simp [container, others, joined]
  | cons text texts => simp [container, others, joined_cons]

theorem writes_array {drafts : List Draft} {texts : List (List Char)}
    (written : List.Forall₂ Writes drafts texts) (isSpace : IsSpace space)
    (isEnding : IsSpace ending) :
    Writes (.array drafts true) (container '[' ']' space ending texts) := by
  intro due stack rest isDue _
  have opened : step? due stack .openBracket = some (.inside .firstItem (.array [] :: stack)) := by
    rcases isDue with rfl | rfl <;> rfl
  have bracket : start (some '[') = ([.openBracket], .between) := rfl
  cases written with
  | nil =>
    rw [container, List.map_cons, List.cons_append, tokensFrom_mark bracket,
      List.singleton_append, readFrom, opened, List.map_append, List.append_assoc,
      tokensFrom_space isSpace, tokensFrom_ending isEnding rfl]
    rfl
  | @cons draft text drafts texts first following =>
    have ends := endsNumber_others space isEnding texts (.inl rfl) rest
    rw [container, List.map_cons, List.cons_append, tokensFrom_mark bracket,
      List.singleton_append, readFrom, opened, List.map_append, List.append_assoc,
      tokensFrom_space isSpace, List.map_append, List.append_assoc]
    dsimp only
    rw [first .firstItem _ _ (.inr rfl) ends]
    exact readFrom_items following isSpace isEnding [draft] stack

theorem writes_object {drafts : List (Option String × Draft)} {texts : List (List Char)}
    (written : List.Forall₂ WritesMember drafts texts) (isSpace : IsSpace space)
    (isEnding : IsSpace ending) :
    Writes (.object drafts true) (container '\x7b' '\x7d' space ending texts) := by
  intro due stack rest isDue _
  have opened : step? due stack .openBrace =
      some (.inside .firstName (.object [] none :: stack)) := by
    rcases isDue with rfl | rfl <;> rfl
  have brace : start (some '\x7b') = ([.openBrace], .between) := rfl
  cases written with
  | nil =>
    rw [container, List.map_cons, List.cons_append, tokensFrom_mark brace, List.singleton_append,
      readFrom, opened, List.map_append, List.append_assoc, tokensFrom_space isSpace,
      tokensFrom_ending isEnding rfl]
    rfl
  | @cons member text drafts texts first following =>
    have ends := endsNumber_others space isEnding texts (.inr rfl) rest
    rw [container, List.map_cons, List.cons_append, tokensFrom_mark brace, List.singleton_append,
      readFrom, opened, List.map_append, List.append_assoc, tokensFrom_space isSpace,
      List.map_append, List.append_assoc]
    dsimp only
    rw [first .firstName _ _ _ _ (.inr rfl) ends]
    exact readFrom_members following isSpace isEnding [member] member.1 stack

theorem writes_null : Writes .null "null".toList := writes_token (fun _ _ => rfl) fun _ => rfl

theorem writes_bool (value : Bool) : Writes (.bool value) (compact (.bool value)) := by
  cases value <;> exact writes_token (fun _ _ => rfl) fun _ => rfl

theorem writes_number (value : Int) :
    Writes (.number (.ofChars (Text.signedDecimal value))) (Text.signedDecimal value) :=
  writes_token (fun _ => tokensFrom_signedDecimal value) fun _ => rfl

theorem writes_text (value : String) : Writes (.text (some value)) (quoted value) :=
  writes_token (fun _ _ => tokensFrom_quoted value) fun _ => rfl

mutual

theorem writes_compact : (value : Json) → Writes value.draft value.compact
  | .null => writes_null
  | .bool value => writes_bool value
  | .number value => writes_number value
  | .text value => writes_text value
  | .array items => by
    have text := container_eq '[' ']' [] [] (compactItems items)
    rw [List.append_nil, List.singleton_append] at text
    rw [draft, compact, text]
    exact writes_array (writes_compactItems items) isSpace_nil isSpace_nil
  | .object members => by
    have text := container_eq '\x7b' '\x7d' [] [] (compactMembers members)
    rw [List.append_nil, List.singleton_append] at text
    rw [draft, compact, text]
    exact writes_object (writes_compactMembers members) isSpace_nil isSpace_nil

theorem writes_compactItems :
    (items : List Json) → List.Forall₂ Writes (drafts items) (compactItems items)
  | [] => .nil
  | item :: items => .cons (writes_compact item) (writes_compactItems items)

theorem writes_compactMembers : (members : List (String × Json)) →
    List.Forall₂ WritesMember (memberDrafts members) (compactMembers members)
  | [] => .nil
  | (name, value) :: members => by
    have first := (writes_compact value).member name isSpace_nil
    rw [List.nil_append] at first
    exact .cons first (writes_compactMembers members)

end

theorem isSpace_newLine (depth : Nat) : IsSpace (newLine depth) := by
  intro character member
  rcases List.mem_cons.mp member with rfl | blank
  · exact .inr rfl
  · exact .inl (List.eq_of_mem_replicate blank)

theorem block_eq (first last : Char) (depth : Nat) (texts : List (List Char)) :
    ∃ space ending, IsSpace space ∧ IsSpace ending ∧
      block first last depth texts = container first last space ending texts := by
  cases texts with
  | nil => exact ⟨[], [], isSpace_nil, isSpace_nil, rfl⟩
  | cons text texts =>
    exact ⟨newLine (depth + 1), newLine depth, isSpace_newLine _, isSpace_newLine _,
      container_eq first last _ _ (text :: texts)⟩

mutual

theorem writes_indented (depth : Nat) : (value : Json) → Writes value.draft (indented depth value)
  | .null => writes_compact .null
  | .bool value => writes_compact (.bool value)
  | .number value => writes_compact (.number value)
  | .text value => writes_compact (.text value)
  | .array items => by
    obtain ⟨space, ending, isSpace, isEnding, text⟩ :=
      block_eq '[' ']' depth (indentedItems (depth + 1) items)
    rw [indented, text]
    exact writes_array (writes_indentedItems (depth + 1) items) isSpace isEnding
  | .object members => by
    obtain ⟨space, ending, isSpace, isEnding, text⟩ :=
      block_eq '\x7b' '\x7d' depth (indentedMembers (depth + 1) members)
    rw [indented, text]
    exact writes_object (writes_indentedMembers (depth + 1) members) isSpace isEnding

theorem writes_indentedItems (depth : Nat) :
    (items : List Json) → List.Forall₂ Writes (drafts items) (indentedItems depth items)
  | [] => .nil
  | item :: items => .cons (writes_indented depth item) (writes_indentedItems depth items)

theorem writes_indentedMembers (depth : Nat) : (members : List (String × Json)) →
    List.Forall₂ WritesMember (memberDrafts members) (indentedMembers depth members)
  | [] => .nil
  | (name, value) :: members => by
    have first := (writes_indented depth value).member name isSpace_blank
    rw [List.singleton_append] at first
    exact .cons first (writes_indentedMembers depth members)

end

theorem Writes.read {value : Draft} {text : List Char} (written : Writes value text) :
    read (text.map some) = (value, []) := by
  have whole := written .value [] [] (.inl rfl) trivial
  rw [List.append_nil] at whole
  rw [Json.read, tokens, whole]
  rfl

/-- A value on one line is read, and nothing is left over. -/
theorem read_compact (value : Json) : read (value.compact.map some) = (value.draft, []) :=
  (writes_compact value).read

/-- So is a value over several lines. -/
theorem read_pretty (value : Json) : read (value.pretty.map some) = (value.draft, []) :=
  (writes_indented 0 value).read

end Reading

end SchoolWeek.Json
