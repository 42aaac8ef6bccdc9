import SchoolWeek.Date.Basic
import SchoolWeek.Text.Double

/-! Which words are TOML values: truth values, whole numbers, other numbers, dates and
times. Only their form is looked at, and that numbers are in range. -/
namespace SchoolWeek.Toml.Scalar

/-- The characters that words are made of. -/
def isWordCharacter (character : Char) : Bool :=
  character.isAlphanum || ['+', '-', '_', '.', ':'].contains character

/-- Digits with single underscores between them; the digits alone are given back. -/
def grouped? (isDigit : Char → Bool) : List Char → Option (List Char)
  | [] => none
  | [digit] => if isDigit digit then some [digit] else none
  | digit :: '_' :: rest => if isDigit digit then (grouped? isDigit rest).map (digit :: ·) else none
  | digit :: rest => if isDigit digit then (grouped? isDigit rest).map (digit :: ·) else none

def dropSign : List Char → List Char
  | '+' :: text => text
  | '-' :: text => text
  | text => text

/-- Decimal digits, of which the first is no zero unless it is the only one. -/
def wholeDigits? (text : List Char) : Option (List Char) :=
  (grouped? Char.isDigit text).bind fun digits =>
    if digits.head? = some '0' ∧ 1 < digits.length then none else some digits

/-- A whole number of 64 bits in decimal. -/
def isDecimal (text : List Char) : Bool :=
  match wholeDigits? (dropSign text) with
  | none => false
  | some digits =>
    let value := Text.ofDigits digits
    value < Nat.pow 2 63 || (text.head? = some '-' && value = Nat.pow 2 63)

/-- A whole number below 2^63 in another base, after its mark. -/
def isBased (base : Nat) (text : List Char) : Bool :=
  let isDigit (character : Char) : Bool := (Text.appendDigit? base 0 character).isSome
  match (grouped? isDigit text).bind (List.foldlM (Text.appendDigit? base) 0) with
  | some value => value < Nat.pow 2 63
  | none => false

def isInteger : List Char → Bool
  | '0' :: 'x' :: digits => isBased 16 digits
  | '0' :: 'o' :: digits => isBased 8 digits
  | '0' :: 'b' :: digits => isBased 2 digits
  | text => isDecimal text

/-- An exponent, after its mark. -/
def power? (text : List Char) : Option Int :=
  (grouped? Char.isDigit (dropSign text)).map fun digits =>
    if text.head? = some '-' then -(Text.ofDigits digits : Int) else Text.ofDigits digits

def isExponentMark (character : Char) : Bool := character = 'e' || character = 'E'

/-- The digits of a number with a point or an exponent, and the power of ten they count in. -/
def decimalParts? (text : List Char) : Option (List Char × Int) := do
  let (mantissa, exponent) := text.span (!isExponentMark ·)
  let (whole, fraction) := mantissa.span (· != '.')
  let digits ← wholeDigits? whole
  let fractionDigits ← if fraction.isEmpty then some [] else grouped? Char.isDigit (fraction.drop 1)
  let power ← if exponent.isEmpty then some 0 else power? (exponent.drop 1)
  if fraction.isEmpty && exponent.isEmpty then none
  else some (digits ++ fractionDigits, power - fractionDigits.length)

/-- A number that is not too large above zero, or infinity, or no number at all. -/
def isFloat (text : List Char) : Bool :=
  let unsigned := dropSign text
  if unsigned = ['i', 'n', 'f'] ∨ unsigned = ['n', 'a', 'n'] then true
  else match decimalParts? unsigned with
    | none => false
    | some (digits, power) => text.head? = some '-' || !Double.isTooLarge digits power

/-- A number of a fixed count of digits within bounds, and what follows it. -/
def fixed? (count low high : Nat) (text : List Char) : Option (Nat × List Char) :=
  let digits := text.take count
  let value := Text.ofDigits digits
  if digits.length = count ∧ digits.all Char.isDigit ∧ low ≤ value ∧ value ≤ high then
    some (value, text.drop count)
  else none

def expect? (character : Char) : List Char → Option (List Char)
  | [] => none
  | found :: text => if found = character then some text else none

/-- A day of the calendar, and what follows it. -/
def date? (text : List Char) : Option (List Char) := do
  let (year, text) ← fixed? 4 0 9999 text
  let text ← expect? '-' text
  let (month, text) ← fixed? 2 1 12 text
  let text ← expect? '-' text
  let (day, text) ← fixed? 2 1 31 text
  if day ≤ Date.daysInMonth year month then return text else none

def fraction? : List Char → Option (List Char)
  | '.' :: text =>
    let rest := text.dropWhile Char.isDigit
    if rest.length = text.length then none else some rest
  | text => some text

/-- A time of day, and what follows it. -/
def time? (text : List Char) : Option (List Char) := do
  let (_, text) ← fixed? 2 0 23 text
  let text ← expect? ':' text
  let (_, text) ← fixed? 2 0 59 text
  let text ← expect? ':' text
  let (_, text) ← fixed? 2 0 60 text
  fraction? text

def isOffset : List Char → Bool
  | [] => true
  | ['Z'] => true
  | ['z'] => true
  | sign :: text =>
    if sign = '+' ∨ sign = '-' then
      match fixed? 2 0 23 text with
      | some (_, ':' :: text) =>
        match fixed? 2 0 59 text with
        | some (_, []) => true
        | _ => false
      | _ => false
    else false

def isTime (text : List Char) : Bool := time? text = some []

/-- A time of day that may have an offset from UTC. -/
def isTimeWithOffset (text : List Char) : Bool :=
  match time? text with
  | some rest => isOffset rest
  | none => false

/-- A day alone. -/
def isDate (text : List Char) : Bool := date? text = some []

/-- A day, a letter T and a time. -/
def isDateTime (text : List Char) : Bool :=
  match date? text with
  | some (mark :: rest) => (mark = 'T' || mark = 't') && isTimeWithOffset rest
  | _ => false

def isValue (word : List Char) : Bool :=
  word = "true".toList || word = "false".toList || isInteger word || isFloat word ||
    isDate word || isTime word || isDateTime word

end SchoolWeek.Toml.Scalar
