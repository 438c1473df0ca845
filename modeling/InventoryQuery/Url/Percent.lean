import InventoryQuery.Text.Hexadecimal
import InventoryQuery.Text.Utf8
/-! # Percent encoding

A character that may not stand in some part of a URL is written as its UTF-8 bytes, a percent sign
and two upper-case hexadecimal digits for each. Every part has its own set of such characters; a
percent sign is in none of them.
-/

namespace InventoryQuery.Url

/-- A byte as a percent sign and two hexadecimal digits. -/
def percentByte (byte : UInt8) : List Char :=
  let digit (n : Nat) := (Text.hexDigit n).toUpper
  ['%', digit (byte.toNat / 16), digit (byte.toNat % 16)]

/-- Writes the characters of a set by their bytes and keeps the others. -/
def percentEncode (encoded : Char → Bool) (text : List Char) : List Char :=
  text.flatMap fun c =>
    if encoded c then (String.utf8EncodeChar c).flatMap percentByte else [c]

/-- The value of a hexadecimal digit given as a byte. -/
def hexByte? (byte : UInt8) : Option UInt8 :=
  (Text.hexValue? (Char.ofNat byte.toNat)).map UInt8.ofNat

/-- Reads percent signs with two hexadecimal digits as bytes; all else stands for itself. -/
def percentDecode : List UInt8 → List UInt8
  | [] => []
  | 37 :: high :: low :: rest =>
    match hexByte? high, hexByte? low with
    | some h, some l => (h * 16 + l) :: percentDecode rest
    | _, _ => 37 :: percentDecode (high :: low :: rest)
  | byte :: rest => byte :: percentDecode rest

/-- Controls and what is not ASCII. -/
def isControl (c : Char) : Bool :=
  c.toNat < 0x20 || 0x7f ≤ c.toNat

/-- What is encoded in a fragment. -/
def inFragmentSet (c : Char) : Bool :=
  isControl c || [' ', '\x22', '<', '>', '\x60'].contains c

/-- What is encoded in a path. -/
def inPathSet (c : Char) : Bool :=
  inFragmentSet c || ['#', '?', '\x7b', '\x7d'].contains c

/-- What is encoded in a user name or password. -/
def inUserinfoSet (c : Char) : Bool :=
  inPathSet c || ['/', ':', ';', '=', '@', '[', '\\', ']', '^', '|'].contains c

/-- What is encoded in a query; the special schemes add the apostrophe. -/
def inQuerySet (special : Bool) (c : Char) : Bool :=
  isControl c || [' ', '\x22', '#', '<', '>'].contains c || (special && c == '\x27')

end InventoryQuery.Url
