/-! Whole numbers in decimal digits. -/
namespace SchoolWeek.Text

/-- The digits of a number, without leading zeros. -/
def decimal (number : Nat) : List Char := Nat.toDigits 10 number

/-- The digits of a number, filled up with zeros on the left to `width`. -/
def padded (width number : Nat) : List Char :=
  List.replicate (width - (decimal number).length) '0' ++ decimal number

/-- A negative number has a minus sign, others have no sign. -/
def signedDecimal : Int → List Char
  | .ofNat number => decimal number
  | .negSucc number => '-' :: decimal (number + 1)

/-- The value of a row of digits; the empty row is 0. -/
def ofDigits (digits : List Char) : Nat := Nat.ofDigitChars 10 digits 0

theorem ofDigits_decimal (number : Nat) : ofDigits (decimal number) = number :=
  Nat.ofDigitChars_ten_toDigits

theorem isDigit_of_mem_decimal {character : Char} {number : Nat}
    (member : character ∈ decimal number) : character.isDigit = true :=
  Nat.isDigit_of_mem_toDigits (b := 10) (n := number) (by decide) (by decide) member

theorem decimal_ne_nil (number : Nat) : decimal number ≠ [] := Nat.toDigits_ne_nil

/-- A hexadecimal digit of either case. -/
def hexValue? (character : Char) : Option Nat :=
  let code := character.toNat
  if 48 ≤ code && code ≤ 57 then some (code - 48)
  else if 97 ≤ code && code ≤ 102 then some (code - 87)
  else if 65 ≤ code && code ≤ 70 then some (code - 55)
  else none

/-- A digit more, in a base of up to 16. -/
def appendDigit? (base value : Nat) (character : Char) : Option Nat :=
  (hexValue? character).bind fun digit => if digit < base then some (value * base + digit) else none

/-- A whole number from 0 to 255 in a base of up to 16. A plus sign and zeros may stand before it. -/
def byte? (base : Nat) (text : List Char) : Option Nat :=
  let digits := if text.head? = some '+' then text.drop 1 else text
  if digits.isEmpty then none
  else (digits.foldlM (appendDigit? base) 0).bind fun value => if value ≤ 255 then some value else none

end SchoolWeek.Text
