import SchoolWeek.Settings.FieldPattern
import SchoolWeek.Text.Blank
import SchoolWeek.Text.Decimal
import SchoolWeek.Text.Letter

/-! The directives that say what is logged, as far as it matters whether they can be
read. A directive is a level, a target, or a target with a span in brackets and a
level after an equals sign; commas stand between directives. White space around a
directive is not read, but the parts of a directive are cut out of it as if nothing had
been left out in front. -/
namespace SchoolWeek.LogFilter

/-- Why a filter is of no use. -/
inductive Fault
  | malformed
  /-- A part would begin or end inside a character. -/
  | brokenCharacter
  deriving DecidableEq, Repr

def levelNames : List String := ["error", "warn", "info", "debug", "trace", "off"]

/-- A level is a name in either case, a number up to 5, or empty. -/
def isLevel (text : List Char) : Bool :=
  text.isEmpty || (levelNames.any fun name => name.toList == text.map Char.toLower) ||
    ((Text.byte? 10 text).map fun value => decide (value ≤ 5)).getD false

def hasDigits (text : List Char) : Bool := !text.isEmpty && text.all Char.isDigit

/-- Decimal digits with a point among them or next to them, and perhaps an exponent. -/
def isDecimal (text : List Char) : Bool :=
  let (mantissa, exponent) := text.span fun character => character != 'e' && character != 'E'
  let (whole, fraction) := mantissa.span (· != '.')
  let power := match exponent.drop 1 with
    | '+' :: digits => digits
    | '-' :: digits => digits
    | digits => digits
  hasDigits (whole ++ fraction.drop 1) && (exponent.isEmpty || hasDigits power)

/-- A number after a plus sign. Other numbers are regular expressions anyway. -/
def isPlusNumber : List Char → Bool
  | '+' :: text =>
    isDecimal text ||
      (["inf", "infinity", "nan"].any fun name => name.toList == text.map Char.toLower)
  | _ => false

/-- A field is a name and, after an equals sign, a value to compare with. Nothing is read
after a second equals sign. -/
def isField (text : List Char) : Bool :=
  if text.isEmpty then false
  else match Text.split (· == '=') text with
    | _ :: value :: _ => isPlusNumber value || FieldPattern.isUsable value
    | _ => true

/-- What follows the first so many bytes. -/
def dropBytes? : Nat → List Char → Option (List Char)
  | 0, text => some text
  | _ + 1, [] => none
  | count + 1, character :: rest =>
    if character.utf8Size ≤ count + 1 then dropBytes? (count + 1 - character.utf8Size) rest else none

/-- The characters of the first so many bytes. -/
def takeBytes? : Nat → List Char → Option (List Char)
  | 0, _ => some []
  | _ + 1, [] => none
  | count + 1, character :: rest =>
    if character.utf8Size ≤ count + 1 then
      (takeBytes? (count + 1 - character.utf8Size) rest).map (character :: ·)
    else none

/-- The part of a directive from one byte to another, or to the end. -/
def cut (directive : List Char) (first : Nat) (stop? : Option Nat) : Except Fault (List Char) :=
  let part? := match stop? with
    | none => dropBytes? first directive
    | some stop => (dropBytes? first directive).bind (takeBytes? (stop - first))
  match part? with
  | some part => .ok part
  | none => .error .brokenCharacter

/-- Where in a directive a character stands. Parts know at which byte they began. -/
inductive Place
  | start
  | name
  | level (first : Nat)
  | span (first : Nat)
  /-- Inside the braces of a span. -/
  | field (first : Nat)
  | fields
  | afterSpan
  deriving DecidableEq, Repr

/-- A name may begin with a letter, a digit or one of three signs. -/
def beginsName (character : Char) : Bool :=
  Text.isAlphanumeric character || ['-', ':', '_'].contains character

/-- Reads a character at a byte of the directive without the white space around it. -/
def step (directive : List Char) (place : Place) (byte : Nat) (character : Char) :
    Except Fault Place :=
  match place, character with
  | .start, '[' => .ok (.span (byte + 1))
  | .start, character => if beginsName character then .ok .name else .error .malformed
  | .name, '=' => (cut directive 0 (some byte)).map fun _ => .level (byte + 1)
  | .name, '[' => (cut directive 0 (some byte)).map fun _ => .span (byte + 1)
  | .name, _ => .ok .name
  | .span first, ']' => (cut directive first (some byte)).map fun _ => .afterSpan
  | .span first, '\x7b' => (cut directive first (some byte)).map fun _ => .field (byte + 1)
  | .span first, _ => .ok (.span first)
  | .field first, '\x7d' => do
    if isField (← cut directive first (some byte)) then return .fields else throw .malformed
  | .field first, _ => .ok (.field first)
  | .fields, ']' => .ok .afterSpan
  | .fields, _ => .error .malformed
  | .afterSpan, '=' => .ok (.level (byte + 1))
  | .afterSpan, _ => .error .malformed
  | .level first, _ => .ok (.level first)

/-- Reads characters from a byte on. -/
def scan (directive : List Char) : Place → Nat → List Char → Except Fault Place
  | place, _, [] => .ok place
  | place, byte, character :: rest => do
    scan directive (← step directive place byte character) (byte + character.utf8Size) rest

def checkDirective (directive : List Char) : Except Fault Unit := do
  match ← scan directive .start 0 (Text.trim directive) with
  | .name => return
  | .afterSpan => return
  | .level first => if isLevel (← cut directive first none) then return else throw .malformed
  | _ => throw .malformed

/-- Checks the directives from left to right; empty ones do not count. -/
def check (text : String) : Except Fault Unit :=
  ((Text.split (· == ',') text.toList).filter (!·.isEmpty)).forM checkDirective

end SchoolWeek.LogFilter
