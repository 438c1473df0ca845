import InventoryQuery.Json.Fault
/-! # Reading numbers

The digits of a number are gathered into a significand while it fits in 64 bits. A whole number
that fits stays exact; every other number becomes a double, further digits of the integer part
counting as powers of ten and further digits of the fraction as nothing.
-/

namespace InventoryQuery.Json

/-- The largest significand. -/
def maxSignificand : Nat := Nat.pow 2 64 - 1

/-- The largest exponent that is read digit by digit. -/
def maxExponent : Nat := Nat.pow 2 31 - 1

/-- The value of a decimal digit. -/
def digitValue (c : Char) : Nat :=
  c.toNat - 48

/-- Whether a text begins with a decimal digit. -/
def startsWithDigit : List Char → Bool
  | [] => false
  | c :: _ => c.isDigit

/-- Takes digits while the significand fits, counting them. -/
def takeDigits (significand count : Nat) : List Char → Nat × Nat × List Char
  | [] => (significand, count, [])
  | c :: rest =>
    if c.isDigit ∧ significand * 10 + digitValue c ≤ maxSignificand then
      takeDigits (significand * 10 + digitValue c) (count + 1) rest
    else (significand, count, c :: rest)

/-- The double of a significand and a power of ten. -/
def readDouble (negative : Bool) (significand : Nat) (exponent : Int) (rest : List Char) :
    Except Fault (Number × List Char) :=
  match Numeral.Binary64.ofDecimal? negative significand exponent with
  | some d => .ok (.double d, rest)
  | none => failAt .numberOutOfRange rest

/-- Takes the digits of an exponent; the flag tells that the last digit taken made it too large. -/
def takeExponent (exponent : Nat) : List Char → Nat × Bool × List Char
  | [] => (exponent, false, [])
  | c :: rest =>
    if c.isDigit then
      if exponent * 10 + digitValue c ≤ maxExponent then
        takeExponent (exponent * 10 + digitValue c) rest
      else (exponent, true, rest)
    else (exponent, false, c :: rest)

/-- Reads the digits of an exponent after its sign. -/
def readExponentDigits (negative : Bool) (significand : Nat) (shift : Int) (down : Bool)
    (text : List Char) : Except Fault (Number × List Char) :=
  match text with
  | [] => failAt .endInValue []
  | c :: rest =>
    if c.isDigit then
      match takeExponent (digitValue c) rest with
      | (exponent, false, rest) =>
        readDouble negative significand (if down then shift - exponent else shift + exponent) rest
      | (_, true, rest) =>
        if significand ≠ 0 ∧ ¬ down then failAt .numberOutOfRange rest
        else .ok (.double ⟨negative, 0⟩, rest.dropWhile Char.isDigit)
    else failAfter .invalidNumber text

/-- Reads an exponent after its letter. -/
def readExponent (negative : Bool) (significand : Nat) (shift : Int) :
    List Char → Except Fault (Number × List Char)
  | '+' :: rest => readExponentDigits negative significand shift false rest
  | '-' :: rest => readExponentDigits negative significand shift true rest
  | rest => readExponentDigits negative significand shift false rest

/-- Ends a number that needs a double, reading an exponent if there is one. -/
def readTail (negative : Bool) (significand : Nat) (shift : Int) :
    List Char → Except Fault (Number × List Char)
  | [] => readDouble negative significand shift []
  | c :: rest =>
    if c = 'e' ∨ c = 'E' then readExponent negative significand shift rest
    else readDouble negative significand shift (c :: rest)

/-- Reads a fraction after its point. -/
def readFraction (negative : Bool) (significand : Nat) (shift : Int) (text : List Char) :
    Except Fault (Number × List Char) :=
  match takeDigits significand 0 text with
  | (significand, count, rest) =>
    if startsWithDigit rest then
      readTail negative significand (shift - count) (rest.dropWhile Char.isDigit)
    else if count = 0 then
      match rest with
      | [] => failAt .endInValue []
      | _ => failAfter .invalidNumber rest
    else readTail negative significand (shift - count) rest

/-- The number of a significand that stands alone. -/
def wholeNumber (negative : Bool) (significand : Nat) : Number :=
  if ¬ negative then .natural significand
  else if 0 < significand ∧ significand ≤ Nat.pow 2 63 then .negative significand
  else .double ⟨true, Numeral.Binary64.ofNat significand⟩

/-- Ends a number after an integer part that fits. -/
def readAfterInteger (negative : Bool) (significand : Nat) : List Char →
    Except Fault (Number × List Char)
  | [] => .ok (wholeNumber negative significand, [])
  | c :: rest =>
    if c = '.' then readFraction negative significand 0 rest
    else if c = 'e' ∨ c = 'E' then readExponent negative significand 0 rest
    else .ok (wholeNumber negative significand, c :: rest)

/-- Ends a number after an integer part of which the last digits did not fit. -/
def readAfterLongInteger (negative : Bool) (significand shift : Nat) : List Char →
    Except Fault (Number × List Char)
  | '.' :: rest => readFraction negative significand shift rest
  | rest => readTail negative significand shift rest

/-- Reads a number after its sign. -/
def readUnsigned (negative : Bool) (text : List Char) : Except Fault (Number × List Char) :=
  match text with
  | [] => failAt .endInValue []
  | c :: rest =>
    if c = '0' then
      if startsWithDigit rest then failAfter .invalidNumber rest
      else readAfterInteger negative 0 rest
    else if c.isDigit then
      match takeDigits (digitValue c) 0 rest with
      | (significand, _, rest) =>
        if startsWithDigit rest then
          let more := rest.takeWhile Char.isDigit
          readAfterLongInteger negative significand more.length (rest.dropWhile Char.isDigit)
        else readAfterInteger negative significand rest
    else failAfter .invalidNumber text

/-- Reads a number. -/
def readNumber : Reader Number
  | '-' :: rest => readUnsigned true rest
  | text => readUnsigned false text

/-- Passes over the digits of an exponent that nobody asked for, after its letter. -/
def skipExponent (text : List Char) : Except Fault (List Char) :=
  let digits := match text with
    | '+' :: rest => rest
    | '-' :: rest => rest
    | rest => rest
  if startsWithDigit digits then .ok (digits.dropWhile Char.isDigit)
  else failAfter .invalidNumber digits

/-- Passes over the exponent, if there is one. -/
def skipTail : List Char → Except Fault (List Char)
  | [] => .ok []
  | c :: rest => if c = 'e' ∨ c = 'E' then skipExponent rest else .ok (c :: rest)

/-- Passes over what follows the integer part. -/
def skipAfterInteger : List Char → Except Fault (List Char)
  | '.' :: rest =>
    if startsWithDigit rest then skipTail (rest.dropWhile Char.isDigit)
    else failAfter .invalidNumber rest
  | rest => skipTail rest

/-- Passes over a number after its sign; its size does not matter. -/
def skipUnsigned : List Char → Except Fault (List Char)
  | [] => failAt .invalidNumber []
  | c :: rest =>
    if c = '0' then
      if startsWithDigit rest then failAfter .invalidNumber rest else skipAfterInteger rest
    else if c.isDigit then skipAfterInteger (rest.dropWhile Char.isDigit)
    else failAfter .invalidNumber (c :: rest)

/-- Passes over a number. -/
def skipNumber : List Char → Except Fault (List Char)
  | '-' :: rest => skipUnsigned rest
  | text => skipUnsigned text

end InventoryQuery.Json
