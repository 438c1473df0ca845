import InventoryQuery.Text.Hexadecimal
import InventoryQuery.Text.Numbered
/-! # Quoting a foreign text in a message

Quotes and backslashes are escaped by a backslash, the common controls have letters, and every
other character that a reader could not tell apart is written as its hexadecimal code point.
-/

namespace InventoryQuery.Text

/-- The form of one character inside a quoted text. -/
def quoteChar (c : Char) : List Char :=
  if c == '\x00' then ['\\', '0']
  else if c == '\t' then ['\\', 't']
  else if c == '\r' then ['\\', 'r']
  else if c == '\n' then ['\\', 'n']
  else if c == '\x22' || c == '\\' then ['\\', c]
  else if isNumbered c then ['\\', 'u', '\x7b'] ++ hexadecimal c.toNat ++ ['\x7d']
  else [c]

/-- A text between double quotes, as messages show it. -/
def quoted (text : String) : String :=
  String.ofList (['\x22'] ++ text.toList.flatMap quoteChar ++ ['\x22'])

end InventoryQuery.Text
