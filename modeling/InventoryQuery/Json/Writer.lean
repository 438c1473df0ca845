import InventoryQuery.Json.Basic
import InventoryQuery.Numeral.Shortest
/-! # The compact text of a JSON value

No blanks are written. Doubles have their shortest text, positional while the exponent of the first
digit is from -5 to 15.
-/

namespace InventoryQuery.Json

/-- The layout of doubles in JSON texts and in messages about them. -/
def layout : Numeral.Layout :=
  { least := -5, most := 15 }

/-- The text of a number. -/
def Number.text : Number → String
  | natural n => toString n
  | negative n => "-" ++ toString n
  | double d => String.ofList (d.text layout)

mutual

/-- The compact text of a value. -/
def write : Json → String
  | null => "null"
  | bool true => "true"
  | bool false => "false"
  | number n => n.text
  | string s => quote s
  | array [] => "[]"
  | array (e :: es) => "[" ++ write e ++ writeElements es ++ "]"
  | object [] => "\x7b\x7d"
  | object ((name, v) :: ms) =>
    "\x7b" ++ quote name ++ ":" ++ write v ++ writeMembers ms ++ "\x7d"

/-- The elements of an array after the first, a comma before each. -/
def writeElements : List Json → String
  | [] => ""
  | e :: es => "," ++ write e ++ writeElements es

/-- The members of an object after the first, a comma before each. -/
def writeMembers : List (String × Json) → String
  | [] => ""
  | (name, v) :: ms => "," ++ quote name ++ ":" ++ write v ++ writeMembers ms

end

end InventoryQuery.Json
