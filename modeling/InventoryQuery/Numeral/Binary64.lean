/-! # Finite binary64 numbers

A finite double is a whole number of units of `2 ^ -1074`, the smallest positive double, so its
arithmetic is exact arithmetic on naturals followed by one rounding. `nearest` rounds a quotient to
53 significant bits, a half going to the even neighbour.
-/

namespace InventoryQuery.Numeral

/-- A finite double: a sign and a magnitude in units of `2 ^ -1074`. -/
structure Binary64 where
  negative : Bool
  units : Nat
  deriving DecidableEq, Repr

/-- The quotient rounded to the nearest natural number, a half going to the even neighbour. -/
def roundHalfEven (numerator denominator : Nat) : Nat :=
  let quotient := numerator / denominator
  let remainder := numerator % denominator
  if 2 * remainder < denominator ∨ (2 * remainder = denominator ∧ quotient % 2 = 0) then quotient
  else quotient + 1

namespace Binary64

/-- The number of units in one. -/
def one : Nat := Nat.pow 2 1074

/-- The first magnitude, in units, that no finite double reaches. -/
def limit : Nat := Nat.pow 2 (1024 + 1074)

/-- The exponent of the last of the 53 significant bits of a magnitude. -/
def lastBit (units : Nat) : Nat :=
  units.log2 - 52

/-- The magnitude nearest to a quotient of units. -/
def nearest (numerator denominator : Nat) : Nat :=
  let place := lastBit (numerator / denominator)
  roundHalfEven numerator (denominator * Nat.pow 2 place) * Nat.pow 2 place

/-- The magnitude nearest to a natural number. -/
def ofNat (n : Nat) : Nat :=
  nearest (n * one) 1

/-- The product of two magnitudes. -/
def multiply (left right : Nat) : Nat :=
  nearest (left * right) one

/-- The quotient of two magnitudes. -/
def divide (left right : Nat) : Nat :=
  nearest (left * one) right

/-- The largest power of ten that is a finite double. -/
def maxPower : Nat := 308

/-- Divides a magnitude by a power of ten, in steps of the largest one. -/
def shrink (units power : Nat) : Nat :=
  if power ≤ maxPower then divide units (ofNat (Nat.pow 10 power))
  else if units = 0 then 0
  else shrink (divide units (ofNat (Nat.pow 10 maxPower))) (power - maxPower)
termination_by power
decreasing_by simp only [maxPower] at *; omega

/-- Multiplies a magnitude by a power of ten; `none` if the result is not finite. -/
def grow? (units power : Nat) : Option Nat :=
  if power ≤ maxPower then
    let result := multiply units (ofNat (Nat.pow 10 power))
    if result < limit then some result else none
  else if units = 0 then some 0
  else none

/-- The double that a reader takes for `significand · 10 ^ exponent`: the significand is rounded
first, and the power of ten is then applied in one rounded operation. -/
def ofDecimal? (negative : Bool) (significand : Nat) (exponent : Int) : Option Binary64 :=
  match exponent with
  | .ofNat power => (grow? (ofNat significand) power).map (⟨negative, ·⟩)
  | .negSucc power => some ⟨negative, shrink (ofNat significand) (power + 1)⟩

end Binary64

end InventoryQuery.Numeral
