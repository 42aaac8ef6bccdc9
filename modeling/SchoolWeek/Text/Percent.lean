import SchoolWeek.Text.Decimal

/-! Texts in which a percent sign and two hexadecimal digits stand for a byte. -/
namespace SchoolWeek.Text

/-- A byte as a hexadecimal digit. -/
def hexDigit? (byte : UInt8) : Option Nat :=
  if byte < 0x80 then hexValue? (Char.ofNat byte.toNat) else none

/-- The bytes meant by bytes with percent signs; other percent signs stand for themselves. -/
def percentDecode : List UInt8 → List UInt8
  | 37 :: high :: low :: bytes =>
    match hexDigit? high, hexDigit? low with
    | some highDigit, some lowDigit =>
      UInt8.ofNat (highDigit * 16 + lowDigit) :: percentDecode bytes
    | _, _ => 37 :: percentDecode (high :: low :: bytes)
  | byte :: bytes => byte :: percentDecode bytes
  | [] => []

end SchoolWeek.Text
