import InventoryQuery.Json.Fault
/-! # Reading string literals

The text after the opening quote is read to the closing one. Four hexadecimal digits give a UTF-16
unit; a leading surrogate needs a trailing one right behind it. `skipString` passes over a literal
that nobody asked for and does not look at surrogates.
-/

namespace InventoryQuery.Json

/-- The value of four hexadecimal digits. -/
def hexUnit? (a b c d : Char) : Option Nat := do
  let a ← Text.hexValue? a
  let b ← Text.hexValue? b
  let c ← Text.hexValue? c
  let d ← Text.hexValue? d
  return ((a * 16 + b) * 16 + c) * 16 + d

/-- Fails on a text that does not begin with four hexadecimal digits: four bytes are taken before
they are looked at. -/
def failHex {α : Type} (text : List Char) : Except Fault α :=
  if Text.byteLength text < 4 then failAt .endInString [] else .error ⟨.invalidEscape, text, 4⟩

/-- Reads four hexadecimal digits. -/
def readUnit : Reader Nat
  | a :: b :: c :: d :: rest =>
    match hexUnit? a b c d with
    | some unit => .ok (unit, rest)
    | none => failHex (a :: b :: c :: d :: rest)
  | text => failHex text

/-- Whether a UTF-16 unit is the first of a pair. -/
def isLeading (unit : Nat) : Bool :=
  0xd800 ≤ unit && unit ≤ 0xdbff

/-- Whether a UTF-16 unit is the second of a pair. -/
def isTrailing (unit : Nat) : Bool :=
  0xdc00 ≤ unit && unit ≤ 0xdfff

/-- The character of a pair of UTF-16 units. -/
def pairChar (leading trailing : Nat) : Char :=
  Char.ofNat ((leading - 0xd800) * 0x400 + (trailing - 0xdc00) + 0x10000)

/-- Takes the given character, which must come next inside an unfinished pair. -/
def readInPair (wanted : Char) : List Char → Except Fault (List Char)
  | [] => failAt .endInString []
  | c :: rest => if c = wanted then .ok rest else failAfter .endOfSurrogatePair (c :: rest)

/-- Reads the digits after `\u`, and the second escape of a pair. -/
def readUnicode (text : List Char) : Except Fault (Char × List Char) := do
  let (unit, rest) ← readUnit text
  if isTrailing unit then failAt .unpairedSurrogate rest
  else if isLeading unit then
    let rest ← readInPair '\\' rest
    let rest ← readInPair 'u' rest
    let (second, rest) ← readUnit rest
    if isTrailing second then return (pairChar unit second, rest)
    else failAt .unpairedSurrogate rest
  else return (Char.ofNat unit, rest)

/-- The character that a one-letter escape stands for. -/
def escaped? (c : Char) : Option Char :=
  if c = '\x22' ∨ c = '\\' ∨ c = '/' then some c
  else if c = 'b' then some '\x08'
  else if c = 'f' then some '\x0c'
  else if c = 'n' then some '\n'
  else if c = 'r' then some '\r'
  else if c = 't' then some '\t'
  else none

/-- Reads what follows a backslash. -/
def readEscape : List Char → Except Fault (Char × List Char)
  | [] => failAt .endInString []
  | c :: rest =>
    if c = 'u' then readUnicode rest
    else match escaped? c with
      | some e => .ok (e, rest)
      | none => failAfter .invalidEscape (c :: rest)

/-- Reads a literal after its opening quote; `fuel` bounds the length of the text. -/
def readChars (fuel : Nat) (text : List Char) : Except Fault (List Char × List Char) :=
  match fuel, text with
  | _, [] => failAt .endInString []
  | 0, _ => failAt .endInString []
  | fuel + 1, c :: rest =>
    if c = '\x22' then .ok ([], rest)
    else if c = '\\' then do
      let (e, rest) ← readEscape rest
      let (es, rest) ← readChars fuel rest
      return (e :: es, rest)
    else if c.toNat < 0x20 then failAfter .controlInString (c :: rest)
    else do
      let (cs, rest) ← readChars fuel rest
      return (c :: cs, rest)

/-- Reads a literal after its opening quote. -/
def readString (text : List Char) : Except Fault (String × List Char) := do
  let (chars, rest) ← readChars text.length text
  return (String.ofList chars, rest)

/-- Passes over what follows a backslash. -/
def skipEscape : List Char → Except Fault (List Char)
  | [] => failAt .endInString []
  | c :: rest =>
    if c = 'u' then (readUnit rest).map (·.2)
    else if (escaped? c).isSome then .ok rest
    else failAfter .invalidEscape (c :: rest)

/-- Passes over a literal after its opening quote; `fuel` bounds the length of the text. -/
def skipChars (fuel : Nat) (text : List Char) : Except Fault (List Char) :=
  match fuel, text with
  | _, [] => failAt .endInString []
  | 0, _ => failAt .endInString []
  | fuel + 1, c :: rest =>
    if c = '\x22' then .ok rest
    else if c = '\\' then do
      let rest ← skipEscape rest
      skipChars fuel rest
    else if c.toNat < 0x20 then failAt .controlInString (c :: rest)
    else skipChars fuel rest

/-- Passes over a literal after its opening quote. -/
def skipString (text : List Char) : Except Fault (List Char) :=
  skipChars text.length text

end InventoryQuery.Json
