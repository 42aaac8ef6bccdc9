/-! Bytes read as UTF-8. What is no character shows up as a gap in the text, so a
reader of the text can decide what to make of it. -/
namespace SchoolWeek.Text

/-- Characters, with a gap for every longest run of bytes that begins a character
and does not end it, and for every other byte that fits nowhere. -/
abbrev Gapped := List (Option Char)

/-- A character whose first bytes have been read: how many are missing, the bounds
of the next one, and the bits so far. -/
structure Unfinished where
  missing : Nat
  low : Nat
  high : Nat
  bits : Nat

namespace Unfinished

/-- What a first byte announces. The bounds keep out longer forms than needed,
surrogates and numbers past the last character. -/
def ofLead? (byte : Nat) : Option Unfinished :=
  if 0xC2 ≤ byte ∧ byte ≤ 0xDF then some ⟨1, 0x80, 0xBF, byte - 0xC0⟩
  else if byte = 0xE0 then some ⟨2, 0xA0, 0xBF, 0⟩
  else if byte = 0xED then some ⟨2, 0x80, 0x9F, 13⟩
  else if 0xE1 ≤ byte ∧ byte ≤ 0xEF then some ⟨2, 0x80, 0xBF, byte - 0xE0⟩
  else if byte = 0xF0 then some ⟨3, 0x90, 0xBF, 0⟩
  else if 0xF1 ≤ byte ∧ byte ≤ 0xF3 then some ⟨3, 0x80, 0xBF, byte - 0xF0⟩
  else if byte = 0xF4 then some ⟨3, 0x80, 0x8F, 4⟩
  else none

end Unfinished

namespace Utf8

/-- A byte that does not go on with a character. -/
def start (byte : Nat) : Gapped × Option Unfinished :=
  if byte < 0x80 then ([some (Char.ofNat byte)], none)
  else match Unfinished.ofLead? byte with
    | some character => ([], some character)
    | none => ([none], none)

/-- The next byte of an unfinished character; any other byte leaves a gap and starts afresh. -/
def advance (character : Unfinished) (byte : Nat) : Gapped × Option Unfinished :=
  if character.low ≤ byte ∧ byte ≤ character.high then
    let bits := character.bits * 64 + (byte - 0x80)
    if character.missing ≤ 1 then ([some (Char.ofNat bits)], none)
    else ([], some ⟨character.missing - 1, 0x80, 0xBF, bits⟩)
  else
    let (text, unfinished) := start byte
    (none :: text, unfinished)

def decodeFrom : Option Unfinished → List UInt8 → Gapped
  | none, [] => []
  | some _, [] => [none]
  | none, byte :: bytes =>
    let (text, unfinished) := start byte.toNat
    text ++ decodeFrom unfinished bytes
  | some character, byte :: bytes =>
    let (text, unfinished) := advance character byte.toNat
    text ++ decodeFrom unfinished bytes

end Utf8

/-- The characters of some bytes, with gaps. -/
def decodeUtf8 (bytes : List UInt8) : Gapped := Utf8.decodeFrom none bytes

/-- A text as its characters; it has no gaps. -/
def gapped (text : String) : Gapped := text.toList.map some

/-- The text, if it has no gaps. -/
def Gapped.whole? (text : Gapped) : Option (List Char) := text.mapM id

/-- The text with a replacement character in every gap. -/
def Gapped.lossy (text : Gapped) : List Char := text.map (·.getD '\uFFFD')

/-- The bytes of a text. -/
def encodeUtf8 (text : List Char) : List UInt8 := (String.ofList text).toUTF8.toList

end SchoolWeek.Text
