import InventoryQuery.Json.Reader
/-! # Passing over values that nobody asked for

The value of an unknown member only has to be well formed: its numbers may have any size, its
strings any surrogates, and it may nest to any depth.
-/

namespace InventoryQuery.Json

open Text (skipSpacing)

/-- Passes over the elements of an array and its closing bracket; `fuel` bounds the length of the
text. -/
def skipElements (value : List Char → Except Fault (List Char)) (fuel : Nat) (first : Bool)
    (text : List Char) : Except Fault (List Char) :=
  match fuel with
  | 0 => failAt .endInList []
  | fuel + 1 =>
    match skipSpacing text with
    | [] => failAt .endInList []
    | c :: rest =>
      if c = ']' then .ok rest
      else if first then do
        let text ← value (c :: rest)
        skipElements value fuel false text
      else if c = ',' then do
        let text ← value rest
        skipElements value fuel false text
      else failAfter .expectedListEnd (c :: rest)

/-- Passes over a name, its colon and its value. -/
def skipMember (value : List Char → Except Fault (List Char)) (text : List Char) :
    Except Fault (List Char) :=
  match skipSpacing text with
  | [] => failAt .endInObject []
  | c :: rest =>
    if c = '\x22' then do
      let text ← skipString rest
      let text ← readColon text
      value text
    else failAfter .keyNotString (c :: rest)

/-- Passes over the members of an object and its closing brace; `fuel` bounds the length of the
text. -/
def skipMembers (value : List Char → Except Fault (List Char)) (fuel : Nat) (first : Bool)
    (text : List Char) : Except Fault (List Char) :=
  match fuel with
  | 0 => failAt .endInObject []
  | fuel + 1 =>
    match skipSpacing text with
    | [] => failAt .endInObject []
    | c :: rest =>
      if c = '\x7d' then .ok rest
      else if first then do
        let text ← skipMember value (c :: rest)
        skipMembers value fuel false text
      else if c = ',' then do
        let text ← skipMember value rest
        skipMembers value fuel false text
      else failAfter .expectedObjectEnd (c :: rest)

/-- Passes over a value that is neither an array nor an object. -/
def skipScalar : List Char → Except Fault (List Char)
  | [] => failAt .endInValue []
  | c :: rest =>
    if c = 'n' then readWord rest ['u', 'l', 'l']
    else if c = 't' then readWord rest ['r', 'u', 'e']
    else if c = 'f' then readWord rest ['a', 'l', 's', 'e']
    else if c = '\x22' then skipString rest
    else if c = '-' ∨ c.isDigit then skipNumber (c :: rest)
    else failAfter .expectedValue (c :: rest)

/-- Passes over a value; `fuel` bounds its nesting, and the length of the text is enough. -/
def skipNested (fuel : Nat) (text : List Char) : Except Fault (List Char) :=
  match fuel with
  | 0 => failAt .endInValue []
  | fuel + 1 =>
    match skipSpacing text with
    | '[' :: rest => skipElements (skipNested fuel) rest.length true rest
    | '\x7b' :: rest => skipMembers (skipNested fuel) rest.length true rest
    | text => skipScalar text

/-- Passes over one value. -/
def skipValue (text : List Char) : Except Fault (List Char) :=
  skipNested text.length text

end InventoryQuery.Json
