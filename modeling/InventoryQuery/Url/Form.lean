import InventoryQuery.Url.Basic
import InventoryQuery.Url.Percent
/-! # Form encoding of queries

A query is a list of pairs. A pair is written with `=` between its parts and `&` before every pair
but the first; a space is written as a plus sign, and every byte beyond letters, digits and four
marks is written in hexadecimal.
-/

namespace InventoryQuery.Url.Form

/-- The characters that stand for themselves. -/
def isPlain (c : Char) : Bool :=
  c.isAlphanum || c == '*' || c == '-' || c == '.' || c == '_'

/-- The form of one character. -/
def encodeChar (c : Char) : List Char :=
  if isPlain c then [c]
  else if c = ' ' then ['+']
  else (String.utf8EncodeChar c).flatMap percentByte

/-- The form of a text. -/
def encode (text : String) : String :=
  String.ofList (text.toList.flatMap encodeChar)

/-- The form of a pair. -/
def pair (name value : String) : String :=
  encode name ++ "=" ++ encode value

end Form

/-- Adds a pair to the query of a URL; nothing else changes. -/
def appendPair (url : Url) (name value : String) : Url :=
  let before := match url.query with
    | none => ""
    | some "" => ""
    | some query => query ++ "&"
  { url with query := some (before ++ Form.pair name value) }

end InventoryQuery.Url
