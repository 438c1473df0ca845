/-! # Encoded labels

A label with characters beyond ASCII is written in ASCII: its ASCII characters stand first, before
a last hyphen, and each further character is inserted at a place that a number of base 36 tells.
The digits of such a number have thresholds; a digit below its threshold is the last one. The
thresholds follow a bias, which adapts to the numbers written so far.
-/

namespace InventoryQuery.Url.Domain.Punycode

/-- The value of a digit of base 36. -/
def digit? (c : Char) : Option Nat :=
  if 'a' ≤ c ∧ c ≤ 'z' then some (c.toNat - 97)
  else if '0' ≤ c ∧ c ≤ '9' then some (c.toNat - 22)
  else none

/-- The digit of a value below 36. -/
def digit (value : Nat) : Char :=
  .ofNat (if value < 26 then value + 97 else value + 22)

theorem digit?_digit {value : Nat} (small : value < 36) : digit? (digit value) = some value := by
  have each : ∀ n ∈ List.range 36, digit? (digit n) = some n := by decide
  exact each value (List.mem_range.mpr small)

/-- Divides a distance down, counting the steps; `fuel` bounds them. -/
def settle (fuel distance steps : Nat) : Nat × Nat :=
  match fuel with
  | 0 => (distance, steps)
  | fuel + 1 => if 455 < distance then settle fuel (distance / 35) (steps + 1) else (distance, steps)

/-- The bias at the start. -/
def firstBias : Nat := 72

/-- The bias after a character was inserted, of which there are now `count` characters. -/
def adapt (distance count : Nat) (first : Bool) : Nat :=
  let distance := if first then distance / 700 else distance / 2
  let (distance, steps) := settle 64 (distance + distance / count) 0
  steps * 36 + 36 * distance / (distance + 38)

/-- The threshold of the digit at some place. -/
def threshold (place bias : Nat) : Nat :=
  min 26 (max 1 (place - bias))

/-- Reads one number; the weight of a digit must fit in 32 bits. -/
def number? (bias place weight sum : Nat) : List Char → Option (Nat × List Char)
  | [] => none
  | c :: rest => do
    let digit ← digit? c
    let sum := sum + digit * weight
    let limit := threshold place bias
    if digit < limit then return (sum, rest)
    else
      guard (weight * (36 - limit) < 2 ^ 32)
      number? bias (place + 36) (weight * (36 - limit)) sum rest

/-- Inserts the characters that the numbers of a text tell; `fuel` bounds its length. -/
def insertAll (fuel : Nat) (decoded : List Char) (code index bias : Nat) (text : List Char) :
    Option (List Char) :=
  match fuel, text with
  | _, [] => some decoded
  | 0, _ => none
  | fuel + 1, text => do
    let (distance, rest) ← number? bias 36 1 0 text
    let count := decoded.length + 1
    let total := index + distance
    let code := code + total / count
    let place := total % count
    guard code.isValidChar
    insertAll fuel (decoded.take place ++ Char.ofNat code :: decoded.drop place) code (place + 1)
      (adapt distance count (decoded.all (·.toNat < 0x80))) rest

/-- Reads an encoded text. A hyphen with nothing before it is no digit. -/
def decode? (text : List Char) : Option (List Char) :=
  let back := (text.reverse.takeWhile (· ≠ '-')).reverse
  let front := text.take (text.length - back.length)
  match front with
  | ['-'] => none
  | _ => insertAll back.length front.dropLast 0x80 0 firstBias back

/-- Writes one number; `fuel` bounds its digits. -/
def writeNumber (fuel bias place n : Nat) : List Char :=
  let limit := threshold place bias
  match fuel with
  | 0 => []
  | fuel + 1 =>
    if n < limit then [digit n]
    else
      digit (limit + (n - limit) % (36 - limit)) ::
        writeNumber fuel bias (place + 36) ((n - limit) / (36 - limit))

/-- How far the encoding of a text got: what was written, the distance since the last number, the
bias, and the number of characters that were handled. -/
structure Progress where
  written : List Char
  distance : Nat := 0
  bias : Nat := firstBias
  handled : Nat

/-- Passes a character while the characters with one code are written. -/
def Progress.pass (basic code : Nat) (progress : Progress) (c : Char) : Progress :=
  if c.toNat < code then { progress with distance := progress.distance + 1 }
  else if c.toNat = code then
    let digits := writeNumber (progress.distance + 1) progress.bias 36 progress.distance
    { written := progress.written ++ digits
      bias := adapt progress.distance (progress.handled + 1) (progress.handled = basic)
      handled := progress.handled + 1 }
  else progress

/-- Writes the characters with each of some ascending codes, starting to count at `next`. -/
def writeCodes (text : List Char) (basic : Nat) (progress : Progress) (next : Nat) :
    List Nat → List Char
  | [] => progress.written
  | code :: codes =>
    let skipped := (code - next) * (progress.handled + 1)
    let passed := text.foldl (Progress.pass basic code)
      { progress with distance := progress.distance + skipped }
    writeCodes text basic { passed with distance := passed.distance + 1 } (code + 1) codes

/-- Puts a number at its place in an ascending list that may hold it already. -/
def insertCode (code : Nat) : List Nat → List Nat
  | [] => [code]
  | next :: codes =>
    if code < next then code :: next :: codes
    else if code = next then next :: codes
    else next :: insertCode code codes

/-- Writes a text in ASCII. -/
def encode (text : List Char) : List Char :=
  let basic := text.filter (·.toNat < 0x80)
  let codes := ((text.map Char.toNat).filter (0x80 ≤ ·)).foldr insertCode []
  let front := if basic.isEmpty then [] else basic ++ ['-']
  writeCodes text basic.length { written := front, handled := basic.length } 0x80 codes

end InventoryQuery.Url.Domain.Punycode
