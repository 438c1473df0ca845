import InventoryQuery.Numeral.Binary64
import InventoryQuery.Text.Hexadecimal
/-! # JSON values and their compact text

An object keeps its members in the order of the text, equal names included; `Json.member?` answers
with the last member of a name. A string is written with the escapes that JSON requires and with no
others.
-/

namespace InventoryQuery

/-- A number of a JSON text: a whole number where 64 bits hold it, else a double. -/
inductive Json.Number where
  | natural (value : Nat)
  | negative (magnitude : Nat)
  | double (value : Numeral.Binary64)
  deriving DecidableEq, Repr

/-- A JSON value. -/
inductive Json where
  | null
  | bool (value : Bool)
  | number (value : Json.Number)
  | string (value : String)
  | array (elements : List Json)
  | object (members : List (String × Json))

namespace Json

/-- The last of the members with a name. -/
def member? (name : String) (members : List (String × Json)) : Option Json :=
  (members.findRev? (·.1 = name)).map (·.2)

/-- The text of a string value. -/
def string? : Json → Option String
  | string value => some value
  | _ => none

/-- The form of one character inside a string literal. -/
def escapeChar (c : Char) : List Char :=
  if c = '\x22' then ['\\', '\x22']
  else if c = '\\' then ['\\', '\\']
  else if c = '\x08' then ['\\', 'b']
  else if c = '\t' then ['\\', 't']
  else if c = '\n' then ['\\', 'n']
  else if c = '\x0c' then ['\\', 'f']
  else if c = '\r' then ['\\', 'r']
  else if c.toNat < 0x20 then
    ['\\', 'u', '0', '0', Text.hexDigit (c.toNat / 16), Text.hexDigit (c.toNat % 16)]
  else [c]

/-- The string literal of a text. -/
def quote (text : String) : String :=
  String.ofList ('\x22' :: text.toList.flatMap escapeChar ++ ['\x22'])

/-- The text of a whole number. -/
def natural (n : Nat) : Json :=
  number (.natural n)

end Json

end InventoryQuery
