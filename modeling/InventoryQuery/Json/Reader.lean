import InventoryQuery.Json.NumberReader
import InventoryQuery.Json.StringReader
import InventoryQuery.Text.Blank
/-! # Reading JSON values

`readValue` reads one value in which arrays and objects nest at most as deep as allowed; `parse`
reads a whole text with the usual allowance. The loops over elements and members take the reader of
one element as an argument, so that values of a known shape are read by the same loops.
-/

namespace InventoryQuery.Json

open Text (skipSpacing)

/-- How deep the arrays and objects of a text may nest. -/
def nestingLimit : Nat := 127

/-- Takes the rest of a word whose first letter was recognized. -/
def readWord (text : List Char) : List Char → Except Fault (List Char)
  | [] => .ok text
  | w :: ws =>
    match text with
    | [] => failAt .endInValue []
    | c :: rest => if c = w then readWord rest ws else failAfter .expectedWord (c :: rest)

/-- Looks for another element of an array. The text is then either at the closing bracket, with
`false`, or at an element. -/
def nextElement (first : Bool) (text : List Char) : Except Fault (Bool × List Char) :=
  match skipSpacing text with
  | [] => failAt .endInList []
  | c :: rest =>
    if c = ']' then .ok (false, c :: rest)
    else if first then .ok (true, c :: rest)
    else if c = ',' then
      match skipSpacing rest with
      | [] => failAt .endInValue []
      | d :: rest => if d = ']' then failAfter .trailingComma (d :: rest) else .ok (true, d :: rest)
    else failAfter .expectedListEnd (c :: rest)

/-- Looks for another member of an object. The text is then either at the closing brace, with
`false`, or after the opening quote of a name. -/
def nextMember (first : Bool) (text : List Char) : Except Fault (Bool × List Char) :=
  match skipSpacing text with
  | [] => failAt .endInObject []
  | c :: rest =>
    if c = '\x7d' then .ok (false, c :: rest)
    else if first then
      if c = '\x22' then .ok (true, rest) else failAfter .keyNotString (c :: rest)
    else if c = ',' then
      match skipSpacing rest with
      | [] => failAt .endInValue []
      | d :: rest =>
        if d = '\x22' then .ok (true, rest)
        else if d = '\x7d' then failAfter .trailingComma (d :: rest)
        else failAfter .keyNotString (d :: rest)
    else failAfter .expectedObjectEnd (c :: rest)

/-- Takes the colon after a name. -/
def readColon (text : List Char) : Except Fault (List Char) :=
  match skipSpacing text with
  | [] => failAt .endInObject []
  | c :: rest => if c = ':' then .ok rest else failAfter .expectedColon (c :: rest)

/-- Reads the elements of an array and its closing bracket; `fuel` bounds the length of the
text. -/
def readElements {α : Type} (element : Reader α) (fuel : Nat) (first : Bool) : Reader (List α) :=
  fun text =>
    match fuel with
    | 0 => failAt .endInList []
    | fuel + 1 => do
      let (more, text) ← nextElement first text
      if more then
        let (x, text) ← element text
        let (xs, text) ← readElements element fuel false text
        return (x :: xs, text)
      else return ([], text.drop 1)

/-- Reads the members of an object and its closing brace; `fuel` bounds the length of the text. -/
def readMembers {α : Type} (value : Reader α) (fuel : Nat) (first : Bool) :
    Reader (List (String × α)) :=
  fun text =>
    match fuel with
    | 0 => failAt .endInObject []
    | fuel + 1 => do
      let (more, text) ← nextMember first text
      if more then
        let (name, text) ← readString text
        let text ← readColon text
        let (x, text) ← value text
        let (xs, text) ← readMembers value fuel false text
        return ((name, x) :: xs, text)
      else return ([], text.drop 1)

/-- Reads a value that is neither an array nor an object. -/
def readScalar : Reader Json
  | [] => failAt .endInValue []
  | c :: rest =>
    if c = 'n' then (readWord rest ['u', 'l', 'l']).map (null, ·)
    else if c = 't' then (readWord rest ['r', 'u', 'e']).map (bool true, ·)
    else if c = 'f' then (readWord rest ['a', 'l', 's', 'e']).map (bool false, ·)
    else if c = '\x22' then (readString rest).map fun (s, rest) => (string s, rest)
    else if c = '-' ∨ c.isDigit then
      (readNumber (c :: rest)).map fun (n, rest) => (number n, rest)
    else failAfter .expectedValue (c :: rest)

/-- Reads a value whose arrays and objects nest at most as deep as allowed. -/
def readValue (allowed : Nat) : Reader Json := fun text =>
  match skipSpacing text with
  | '[' :: rest =>
    match allowed with
    | 0 => failAfter .tooDeep ('[' :: rest)
    | allowed + 1 =>
      (readElements (readValue allowed) rest.length true rest).map
        fun (elements, rest) => (array elements, rest)
  | '\x7b' :: rest =>
    match allowed with
    | 0 => failAfter .tooDeep ('\x7b' :: rest)
    | allowed + 1 =>
      (readMembers (readValue allowed) rest.length true rest).map
        fun (members, rest) => (object members, rest)
  | text => readScalar text

/-- Accepts a text of which only spacing is left. -/
def readEnd (text : List Char) : Except Fault Unit :=
  match skipSpacing text with
  | [] => .ok ()
  | rest => failAfter .trailingCharacters rest

/-- Reads a whole text with a reader of one value. -/
def readWhole {α : Type} (reader : Reader α) (text : String) : Except Error α :=
  let chars := text.toList
  match (do let (value, rest) ← reader chars; readEnd rest; return value : Except Fault α) with
  | .ok value => .ok value
  | .error fault => .error (fault.toError chars)

/-- Reads a whole text as one value. -/
def parse (text : String) : Except Error Json :=
  readWhole (readValue nestingLimit) text

/-- Reads a whole text as one value, however deep it nests. -/
def parseUnlimited (text : String) : Except Error Json :=
  readWhole (readValue text.length) text

end InventoryQuery.Json
