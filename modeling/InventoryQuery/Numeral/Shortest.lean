import InventoryQuery.Numeral.Binary64
/-! # The shortest decimal text of a double

`shortest` tries the decimal grids of 1, 2, … 17 digits and takes the first that has a point which
rounds to the double; of two such points it takes the nearer one. Every point of a grid that could
round to the double is beside its value on that grid, so the two neighbours decide.
-/

namespace InventoryQuery.Numeral

/-- A decimal number `digits · 10 ^ exponent`. -/
structure Decimal where
  digits : Nat
  exponent : Int
  deriving DecidableEq, Repr

/-- A power of ten as a numerator and a denominator. -/
def powerOfTen (exponent : Int) : Nat × Nat :=
  (Nat.pow 10 exponent.toNat, Nat.pow 10 (-exponent).toNat)

/-- The number of decimal digits of a natural number. -/
def digitCount (n : Nat) : Nat :=
  (Nat.toDigits 10 n).length

/-- The exponent of the first decimal digit of a positive quotient. -/
def decade (numerator denominator : Nat) : Int :=
  if denominator ≤ numerator then (digitCount (numerator / denominator) : Int) - 1
  else -(digitCount ((denominator - 1) / numerator) : Int)

namespace Binary64

/-- Whether a decimal rounds to a positive magnitude: it lies between the midpoints to the two
neighbouring doubles, ends included for an even significand. -/
def holds (units : Nat) (decimal : Decimal) : Bool :=
  let place := lastBit units
  let even := units / Nat.pow 2 place % 2 = 0
  let above := 2 * Nat.pow 2 place
  let below :=
    if 0 < place ∧ units = Nat.pow 2 (52 + place) then Nat.pow 2 place else 2 * Nat.pow 2 place
  let (numerator, denominator) := powerOfTen decimal.exponent
  let point := 4 * (decimal.digits * numerator * one)
  let low := (4 * units - below) * denominator
  let high := (4 * units + above) * denominator
  if even then low ≤ point && point ≤ high else low < point && point < high

/-- The neighbours of a magnitude on the decimal grid of some exponent, the nearer one first; of
two equally near ones the even one is first. -/
def neighbours (units : Nat) (exponent : Int) : List Decimal :=
  let (numerator, denominator) := powerOfTen exponent
  let step := numerator * one
  let floor := units * denominator / step
  let nearer := roundHalfEven (units * denominator) step
  [⟨nearer, exponent⟩, ⟨2 * floor + 1 - nearer, exponent⟩]

/-- The shortest decimal that rounds to a positive magnitude. -/
def shortest (units : Nat) : Decimal :=
  let first := decade units one
  let candidates := (List.range 17).flatMap fun (n : Nat) => neighbours units (first - n)
  (candidates.find? (holds units)).getD ⟨0, 0⟩

end Binary64

/-- Drops trailing zeros of the digits, raising the exponent. -/
def Decimal.strip (fuel : Nat) (decimal : Decimal) : Decimal :=
  match fuel with
  | 0 => decimal
  | fuel + 1 =>
    if decimal.digits % 10 = 0 then
      Decimal.strip fuel ⟨decimal.digits / 10, decimal.exponent + 1⟩
    else decimal

/-- How a double is laid out: the least and the greatest exponent of its first digit that is written
positionally. -/
structure Layout where
  least : Int
  most : Int

/-- The text of a positive decimal without trailing zeros. An exponent has always a sign and no
leading zeros. -/
def Decimal.text (layout : Layout) (decimal : Decimal) : List Char :=
  let digits := Nat.toDigits 10 decimal.digits
  let first := decimal.exponent + digits.length - 1
  if layout.least ≤ first ∧ first ≤ layout.most then
    if 0 ≤ decimal.exponent then
      digits ++ List.replicate decimal.exponent.toNat '0' ++ ['.', '0']
    else if 0 ≤ first then
      digits.take (first.toNat + 1) ++ ['.'] ++ digits.drop (first.toNat + 1)
    else ['0', '.'] ++ List.replicate (-first - 1).toNat '0' ++ digits
  else
    let mantissa := digits.take 1 ++ (if digits.length = 1 then [] else '.' :: digits.drop 1)
    let sign := if first < 0 then '-' else '+'
    mantissa ++ ['e', sign] ++ Nat.toDigits 10 first.natAbs

/-- The shortest text of a double that reads back as it. -/
def Binary64.text (layout : Layout) (double : Binary64) : List Char :=
  let sign := if double.negative then ['-'] else []
  if double.units = 0 then sign ++ ['0', '.', '0']
  else sign ++ ((Binary64.shortest double.units).strip 17).text layout

end InventoryQuery.Numeral
