import SchoolWeek.Text.Utf8
import SchoolWeek.Text.Decimal
import SchoolWeek.Text.Double

/-! The tokens of a JSON text. Lexing goes character by character and stops at the
first place where no token can go on, which shows as a `broken` token. Two things
are noted without stopping, because they only matter to a reader who wants the
value: a string that does not spell a text, and a number too large to represent. -/
namespace SchoolWeek.Json

/-- A number as a reader of whole numbers sees it. -/
inductive Number
  /-- Written without a point or an exponent, and not too long. -/
  | whole (value : Int)
  /-- Any other number, with a sign that it is too large. -/
  | other (tooLarge : Bool)
  deriving DecidableEq, Repr

inductive Token
  | openBrace | closeBrace | openBracket | closeBracket | colon | comma
  | null
  | bool (value : Bool)
  | number (value : Number)
  /-- A string; none if it does not spell a text. -/
  | text (content? : Option String)
  | broken
  deriving DecidableEq, Repr

/-- A piece of a string: a character, a gap, or an escaped unit of UTF-16. -/
inductive Piece
  | character (value : Char)
  | gap
  | unit (value : Nat)
  deriving DecidableEq, Repr

namespace Piece

/-- The text that the pieces spell: no gaps, and surrogates only in pairs. -/
def spell : List Piece → Option (List Char)
  | [] => some []
  | .character value :: pieces => (spell pieces).map (value :: ·)
  | .gap :: _ => none
  | .unit high :: .unit low :: pieces =>
    if high < 0xD800 ∨ 0xE000 ≤ high then
      (spell (.unit low :: pieces)).map (Char.ofNat high :: ·)
    else if high < 0xDC00 ∧ 0xDC00 ≤ low ∧ low < 0xE000 then
      (spell pieces).map (Char.ofNat (0x10000 + (high - 0xD800) * 0x400 + (low - 0xDC00)) :: ·)
    else none
  | .unit value :: pieces =>
    if value < 0xD800 ∨ 0xE000 ≤ value then (spell pieces).map (Char.ofNat value :: ·) else none

end Piece

/-- How far a number has got. -/
inductive Phase
  | sign | zero | whole | point | fraction | mark | markSign | exponent
  deriving DecidableEq, Repr

namespace Phase

/-- The phase after one more character, if the number can go on with it. -/
def next? (phase : Phase) (character : Char) : Option Phase :=
  let digit := character.isDigit
  let isMark := character = 'e' || character = 'E'
  match phase with
  | sign => if character = '0' then some zero else if digit then some whole else none
  | zero => if character = '.' then some point else if isMark then some mark else none
  | whole =>
    if digit then some whole else if character = '.' then some point
    else if isMark then some mark else none
  | point => if digit then some fraction else none
  | fraction => if digit then some fraction else if isMark then some mark else none
  | mark =>
    if digit then some exponent else if character = '+' || character = '-' then some markSign
    else none
  | markSign => if digit then some exponent else none
  | exponent => if digit then some exponent else none

/-- The number may end here, before the given character. -/
def mayEnd (phase : Phase) (character : Char) : Bool :=
  match phase with
  | zero => !character.isDigit
  | whole | fraction | exponent => true
  | _ => false

end Phase

namespace Number

/-- An exponent with an optional sign. -/
def readPower : List Char → Int
  | '-' :: digits => -(Text.ofDigits digits : Int)
  | '+' :: digits => Text.ofDigits digits
  | digits => Text.ofDigits digits

/-- The value of a number's characters. Whole numbers are those of 64 bits. -/
def ofChars (characters : List Char) : Number :=
  let negative := characters.head? = some '-'
  let unsigned := if negative then characters.drop 1 else characters
  let (wholePart, rest) := unsigned.span Char.isDigit
  let other :=
    let (fraction, rest) :=
      if rest.head? = some '.' then (rest.drop 1).span Char.isDigit else ([], rest)
    .other (Double.isTooLargeInSteps wholePart fraction (readPower (rest.drop 1)))
  if rest.isEmpty then
    let magnitude := Text.ofDigits wholePart
    if negative then
      if 0 < magnitude ∧ magnitude ≤ Nat.pow 2 63 then .whole (-(magnitude : Int)) else other
    else if magnitude < Nat.pow 2 64 then .whole magnitude
    else other
  else other

end Number

/-- What is being lexed. Characters and pieces are kept last first. -/
inductive Lexeme
  | between
  | word (rest : List Char) (token : Token)
  | number (phase : Phase) (characters : List Char)
  | string (pieces : List Piece)
  | escape (pieces : List Piece)
  /-- An escaped unit of which some hexadecimal digits are missing. -/
  | unit (pieces : List Piece) (missing : Nat) (value : Nat)
  | stopped

namespace Lexeme

def stop : List Token × Lexeme := ([.broken], .stopped)

/-- A character between tokens. -/
def start : Option Char → List Token × Lexeme
  | none => stop
  | some character =>
    match character with
    | ' ' | '\n' | '\r' | '\t' => ([], .between)
    | '\x7b' => ([.openBrace], .between)
    | '\x7d' => ([.closeBrace], .between)
    | '[' => ([.openBracket], .between)
    | ']' => ([.closeBracket], .between)
    | ':' => ([.colon], .between)
    | ',' => ([.comma], .between)
    | '\x22' => ([], .string [])
    | 'n' => ([], .word ['u', 'l', 'l'] .null)
    | 't' => ([], .word ['r', 'u', 'e'] (.bool true))
    | 'f' => ([], .word ['a', 'l', 's', 'e'] (.bool false))
    | '-' => ([], .number .sign ['-'])
    | '0' => ([], .number .zero ['0'])
    | _ => if character.isDigit then ([], .number .whole [character]) else stop

/-- A character inside quotes. -/
def insideString (pieces : List Piece) : Option Char → List Token × Lexeme
  | none => ([], .string (.gap :: pieces))
  | some '\x22' => ([.text ((Piece.spell pieces.reverse).map String.ofList)], .between)
  | some '\\' => ([], .escape pieces)
  | some character =>
    if character.toNat < 32 then stop else ([], .string (.character character :: pieces))

/-- The character after a backslash. -/
def afterBackslash (pieces : List Piece) : Option Char → List Token × Lexeme
  | none => stop
  | some character =>
    let done (value : Char) := ([], Lexeme.string (.character value :: pieces))
    match character with
    | '\x22' | '\\' | '/' => done character
    | 'b' => done '\x08'
    | 'f' => done '\x0c'
    | 'n' => done '\n'
    | 'r' => done '\r'
    | 't' => done '\t'
    | 'u' => ([], .unit pieces 4 0)
    | _ => stop

def insideUnit (pieces : List Piece) (missing value : Nat) : Option Char → List Token × Lexeme
  | none => stop
  | some character =>
    match Text.hexValue? character with
    | none => stop
    | some digit =>
      let value := value * 16 + digit
      if missing ≤ 1 then ([], .string (.unit value :: pieces))
      else ([], .unit pieces (missing - 1) value)

def insideWord (rest : List Char) (token : Token) (character? : Option Char) :
    List Token × Lexeme :=
  match rest with
  | [] => stop
  | [last] => if character? = some last then ([token], .between) else stop
  | next :: rest => if character? = some next then ([], .word rest token) else stop

/-- A number goes on as long as it can; what ends it is lexed anew. -/
def insideNumber (phase : Phase) (characters : List Char) (character? : Option Char) :
    List Token × Lexeme :=
  match character?.bind phase.next? with
  | some phase => ([], .number phase (character?.toList ++ characters))
  | none =>
    if phase.mayEnd (character?.getD ' ') then
      let (tokens, lexeme) := start character?
      (.number (.ofChars characters.reverse) :: tokens, lexeme)
    else stop

/-- The tokens finished by a character, and what is being lexed after it. -/
def step (lexeme : Lexeme) (character? : Option Char) : List Token × Lexeme :=
  match lexeme with
  | between => start character?
  | word rest token => insideWord rest token character?
  | number phase characters => insideNumber phase characters character?
  | string pieces => insideString pieces character?
  | escape pieces => afterBackslash pieces character?
  | unit pieces missing value => insideUnit pieces missing value character?
  | stopped => ([], stopped)

/-- The tokens still to come when the text ends. -/
def finish : Lexeme → List Token
  | between | stopped => []
  | number phase characters =>
    if phase.mayEnd ' ' then [.number (.ofChars characters.reverse)] else [.broken]
  | _ => [.broken]

end Lexeme

def tokensFrom (lexeme : Lexeme) : Text.Gapped → List Token
  | [] => lexeme.finish
  | character? :: rest =>
    let (tokens, lexeme) := lexeme.step character?
    tokens ++ tokensFrom lexeme rest

/-- The tokens of a text. -/
def tokens (text : Text.Gapped) : List Token := tokensFrom .between text

end SchoolWeek.Json
