import SchoolWeek.Text.Decimal

/-! Decimal numbers as double-precision numbers, as far as it matters whether they are
too large. A reader may round the number itself, or it may round its digits and a power
of ten one by one and then their product, which can come out differently at the limit. -/
namespace SchoolWeek.Double

/-- The least number that is rounded to infinity. -/
def limit : Nat := Nat.pow 2 1024 - Nat.pow 2 970

/-- Decimal digits and a power of ten that come to the limit or more. -/
def isTooLarge (digits : List Char) (power : Int) : Bool :=
  let significant := digits.dropWhile (· == '0')
  let magnitude := (significant.length : Int) + power
  if significant.isEmpty || magnitude ≤ 308 then false
  else if 310 < magnitude then true
  else
    let value := Text.ofDigits significant
    if 0 ≤ power then limit ≤ value * Nat.pow 10 power.toNat
    else limit * Nat.pow 10 (-power).toNat ≤ value

/-- The nearest number of 53 significant bits; of two equally near ones the even one. -/
def nearest (value : Nat) : Nat :=
  let unit := Nat.pow 2 (value.log2 + 1 - 53)
  let quotient := value / unit
  let doubledRest := 2 * (value % unit)
  if unit < doubledRest ∨ (doubledRest = unit ∧ quotient % 2 = 1) then (quotient + 1) * unit
  else quotient * unit

/-- Reads on in digits while the value stays below 2^64. Gives the value and the digits left. -/
def gather (value : Nat) : List Char → Nat × List Char
  | [] => (value, [])
  | digit :: digits =>
    let longer := value * 10 + Text.ofDigits [digit]
    if longer < Nat.pow 2 64 then gather longer digits else (value, digit :: digits)

/-- The product of a rounded significand and a rounded power of ten comes to the limit or more. -/
def isProductTooLarge (significand : Nat) (power : Int) : Bool :=
  if power < 0 then false
  else if 308 < power then significand != 0
  else limit ≤ nearest significand * nearest (Nat.pow 10 power.toNat)

/-- The digits before the point, those after it and a power of ten are too large when only
the digits that fit into 64 bits count. Digits before the point that do not fit count as
powers of ten. -/
def isTooLargeInSteps (whole fraction : List Char) (power : Int) : Bool :=
  let (value, omitted) := gather 0 whole
  let (significand, rest) := gather value fraction
  isProductTooLarge significand (power + omitted.length - (fraction.length - rest.length : Nat))

end SchoolWeek.Double
