import InventoryQuery.Text.Utf8
/-! # Reading bytes that may not be UTF-8

Bytes that begin no character are replaced: the beginning of a character that breaks off counts as
one, every other byte as one of its own. UTF-8 text is read as it is (`decode_bytes`).
-/

namespace InventoryQuery.Text

/-- The bounds of the bytes that follow the first byte of a character. -/
def tailBounds (first : UInt8) : List (UInt8 × UInt8) :=
  let tail : UInt8 × UInt8 := (0x80, 0xbf)
  if 0xc2 ≤ first ∧ first ≤ 0xdf then [tail]
  else if first = 0xe0 then [(0xa0, 0xbf), tail]
  else if first = 0xed then [(0x80, 0x9f), tail]
  else if 0xe1 ≤ first ∧ first ≤ 0xef then [tail, tail]
  else if first = 0xf0 then [(0x90, 0xbf), tail, tail]
  else if 0xf1 ≤ first ∧ first ≤ 0xf3 then [tail, tail, tail]
  else if first = 0xf4 then [(0x80, 0x8f), tail, tail]
  else []

/-- How many bytes at the front keep to some bounds. -/
def withinBounds : List (UInt8 × UInt8) → List UInt8 → Nat
  | (least, most) :: bounds, byte :: rest =>
    if least ≤ byte ∧ byte ≤ most then withinBounds bounds rest + 1 else 0
  | _, _ => 0

/-- The character at the front of some bytes. -/
def frontChar? (bytes : List UInt8) : Option Char :=
  bytes.toByteArray.utf8DecodeChar? 0

/-- The text of some bytes, with a replacement character for what is not UTF-8. -/
def decode : List UInt8 → List Char
  | [] => []
  | byte :: rest =>
    match frontChar? (byte :: rest) with
    | some c => c :: decode (rest.drop (c.utf8Size - 1))
    | none => '\ufffd' :: decode (rest.drop (withinBounds (tailBounds byte) rest))
termination_by bytes => bytes.length
decreasing_by
  all_goals
    rw [List.length_drop, List.length_cons]
    omega

/-- A character that breaks off is replaced once, a byte that begins none by itself. -/
example : decode [0xf0, 0x9f, 0x98, 0x41, 0x80, 0x80] = ['\ufffd', 'A', '\ufffd', '\ufffd'] := by
  decide +kernel

end InventoryQuery.Text
