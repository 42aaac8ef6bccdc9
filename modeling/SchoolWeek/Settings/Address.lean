import SchoolWeek.Text.Decimal

/-! Addresses to listen at: an Internet address of either length, and a port. -/
namespace SchoolWeek

/-- An address with its port. The long form has eight groups of 16 bits and a scope. -/
inductive Address
  | short (bytes : List Nat) (port : Nat)
  | long (groups : List Nat) (scope port : Nat)
  deriving DecidableEq, Repr

namespace Address

/-- The longest run of digits of a base at the front, as a number with a count of digits. -/
def digits (base : Nat) (text : List Char) : Nat × Nat × List Char :=
  let run := text.takeWhile fun character => (Text.appendDigit? base 0 character).isSome
  (((run.foldlM (Text.appendDigit? base) 0).getD 0), run.length, text.drop run.length)

/-- A number of at least one digit, not above `high`. -/
def number? (base high : Nat) (text : List Char) : Option (Nat × List Char) :=
  let (value, count, rest) := digits base text
  if 0 < count ∧ value ≤ high then some (value, rest) else none

/-- One byte of the short form: up to three digits without a leading zero. -/
def byte? (text : List Char) : Option (Nat × List Char) :=
  let (value, count, rest) := digits 10 text
  if 0 < count ∧ count ≤ 3 ∧ value ≤ 255 ∧ (text.head? ≠ some '0' ∨ count = 1) then
    some (value, rest)
  else none

/-- One group of the long form: up to four hexadecimal digits. -/
def group? (text : List Char) : Option (Nat × List Char) :=
  let (value, count, rest) := digits 16 text
  if 0 < count ∧ count ≤ 4 then some (value, rest) else none

def expect? (character : Char) : List Char → Option (List Char)
  | [] => none
  | found :: text => if found = character then some text else none

/-- Four bytes with dots between them. -/
def bytes? (text : List Char) : Option (List Nat × List Char) := do
  let (a, text) ← byte? text
  let (b, text) ← byte? (← expect? '.' text)
  let (c, text) ← byte? (← expect? '.' text)
  let (d, text) ← byte? (← expect? '.' text)
  return ([a, b, c, d], text)

/-- The four bytes as two groups. -/
def asGroups : List Nat → List Nat
  | [a, b, c, d] => [a * 256 + b, c * 256 + d]
  | _ => []

/-- Up to `limit` groups with colons between them. The last two may be written as bytes,
which ends the groups; whether they are is said as well. -/
def groups (isFirst : Bool) : Nat → List Char → List Nat × Bool × List Char
  | 0, text => ([], false, text)
  | limit + 1, text =>
    match if isFirst then some text else expect? ':' text with
    | none => ([], false, text)
    | some start =>
      match if 0 < limit then bytes? start else none with
      | some (bytes, rest) => (asGroups bytes, true, rest)
      | none =>
        match group? start with
        | none => ([], false, text)
        | some (group, rest) =>
          let (later, inBytes, rest) := groups false limit rest
          (group :: later, inBytes, rest)

/-- Eight groups, or fewer with a double colon for the zeros left out. -/
def longForm? (text : List Char) : Option (List Nat × List Char) :=
  let (head, inBytes, rest) := groups true 8 text
  if head.length = 8 then some (head, rest)
  else if inBytes then none
  else do
    let rest ← expect? ':' (← expect? ':' rest)
    let (tail, _, rest) := groups true (7 - head.length) rest
    return (head ++ List.replicate (8 - head.length - tail.length) 0 ++ tail, rest)

def port? (text : List Char) : Option Nat := do
  let (port, rest) ← number? 10 65535 (← expect? ':' text)
  if rest.isEmpty then return port else none

/-- The part after a percent sign, if it is there. -/
def scope? : List Char → Option (Nat × List Char)
  | '%' :: text => number? 10 4294967295 text
  | text => some (0, text)

def read? (text : List Char) : Option Address :=
  match bytes? text with
  | some (bytes, rest) => (port? rest).map (short bytes)
  | none => do
    let (groups, rest) ← longForm? (← expect? '[' text)
    let (scope, rest) ← scope? rest
    let port ← port? (← expect? ']' rest)
    return long groups scope port

/-- The position and length of the first longest run of zeros. -/
def zeroRun (groups : List Nat) : Nat × Nat :=
  let length (start : Nat) := ((groups.drop start).takeWhile (· == 0)).length
  (List.range groups.length).foldl
    (fun best start => if best.2 < length start then (start, length start) else best) (0, 0)

def joinedGroups (groups : List Nat) : List Char :=
  [':'].intercalate (groups.map (Nat.toDigits 16))

def joinedBytes (bytes : List Nat) : List Char := ['.'].intercalate (bytes.map Text.decimal)

/-- The long form, with a double colon for the longest run of two or more zeros. Bytes
carried in the long form are written as bytes. -/
def longText (groups : List Nat) : List Char :=
  match groups with
  | [0, 0, 0, 0, 0, 0xffff, high, low] =>
    "::ffff:".toList ++ joinedBytes [high / 256, high % 256, low / 256, low % 256]
  | groups =>
    let (start, length) := zeroRun groups
    if 1 < length then
      joinedGroups (groups.take start) ++ [':', ':'] ++ joinedGroups (groups.drop (start + length))
    else joinedGroups groups

def isLong : Address → Bool
  | short _ _ => false
  | long _ _ _ => true

def port : Address → Nat
  | short _ port => port
  | long _ _ port => port

/-- The address without its port. -/
def hostText : Address → String
  | short bytes _ => String.ofList (joinedBytes bytes)
  | long groups _ _ => String.ofList (longText groups)

/-- The address with its port; the long form stands in brackets with its scope. -/
def text (address : Address) : String :=
  let port := ":" ++ String.ofList (Text.decimal address.port)
  match address with
  | short _ _ => address.hostText ++ port
  | long _ scope _ =>
    let scope := if scope = 0 then "" else "%" ++ String.ofList (Text.decimal scope)
    "[" ++ address.hostText ++ scope ++ "]" ++ port

end Address
end SchoolWeek
