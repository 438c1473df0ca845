import InventoryQuery.Json.Skip
/-! # Reading values of a known shape

A record is read from an object, whose members may come in any order, or from an array of its fields
in order. What a record lacks is settled by its `finish`, and a fault of the record itself lies
where its closing bracket was looked for.
-/

namespace InventoryQuery.Json

open Text (skipSpacing)

/-- Names the value of another shape at which the text stands. -/
def failShape {α : Type} (expected : String) : List Char → Except Fault α
  | [] => failAt .expectedValue []
  | c :: rest =>
    if c = '[' then failAt (.wrongType .array expected) (c :: rest)
    else if c = '\x7b' then failAt (.wrongType .object expected) (c :: rest)
    else match readScalar (c :: rest) with
      | .error fault => .error fault
      | .ok (value, rest) =>
        let found := match value with
          | .bool b => Found.bool b
          | .number n => Found.number n
          | .string s => Found.string s
          | _ => Found.null
        failAt (.wrongType found expected) rest

/-- Reads a string. -/
def readText : Reader String := fun text =>
  match skipSpacing text with
  | [] => failAt .endInValue []
  | '\x22' :: rest => readString rest
  | text => failShape "a string" text

/-- Reads a whole number below a bound, of a type with the given name. -/
def readBelow (bound : Nat) (name : String) : Reader Nat := fun text =>
  match skipSpacing text with
  | [] => failAt .endInValue []
  | c :: rest =>
    if c = '-' ∨ c.isDigit then do
      let (n, rest) ← readNumber (c :: rest)
      match n with
      | .natural n =>
        if n < bound then return (n, rest)
        else failAt (.wrongValue (.number (.natural n)) name) rest
      | .negative n => failAt (.wrongValue (.number (.negative n)) name) rest
      | .double d => failAt (.wrongType (.number (.double d)) name) rest
    else failShape name (c :: rest)

/-- Reads a value and takes it for one of another type. -/
def readAs {α β : Type} (convert : α → β) (reader : Reader α) : Reader β := fun text =>
  (reader text).map fun (value, rest) => (convert value, rest)

/-- Reads a value or `null`. -/
def readOptional {α : Type} (reader : Reader α) : Reader (Option α) := fun text =>
  match skipSpacing text with
  | 'n' :: rest => (readWord rest ['u', 'l', 'l']).map (none, ·)
  | text => readAs some reader text

/-- Reads an array of elements. -/
def readList {α : Type} (element : Reader α) : Reader (List α) := fun text =>
  match skipSpacing text with
  | [] => failAt .endInValue []
  | '[' :: rest => readElements element rest.length true rest
  | text => failShape "a sequence" text

/-- Reads an object whose values have one shape. -/
def readMap {α : Type} (value : Reader α) : Reader (List (String × α)) := fun text =>
  match skipSpacing text with
  | [] => failAt .endInValue []
  | '\x7b' :: rest => readMembers value rest.length true rest
  | text => failShape "a map" text

/-- What is unread after the closing brace of an object was looked for. -/
def afterObject (text : List Char) : List Char :=
  match skipSpacing text with
  | '\x7d' :: rest => rest
  | rest => rest

/-- A field of a record that is read into a draft `δ`. -/
structure Field (δ : Type) where
  name : String
  given : δ → Bool
  read : δ → Reader δ

/-- A field that is kept in one place of the draft. -/
def Field.of {δ α : Type} (name : String) (get : δ → Option α) (set : δ → α → δ)
    (reader : Reader α) : Field δ where
  name := name
  given draft := (get draft).isSome
  read draft := readAs (set draft) reader

/-- How a record of type `ρ` is read: its name in messages, its fields in order, the draft without
any field, and what becomes of a draft. -/
structure Shape (δ ρ : Type) where
  name : String
  fields : List (Field δ)
  blank : δ
  finish : δ → Except Cause ρ
  /-- What an array with too few elements is refused with, given the number it has. -/
  short : Nat → Option Cause

/-- Reads the members of a record up to its closing brace; `fuel` bounds the length of the text. -/
def readFields {δ : Type} (fields : List (Field δ)) (fuel : Nat) (first : Bool) (draft : δ) :
    Reader δ := fun text =>
  match fuel with
  | 0 => failAt .endInObject []
  | fuel + 1 => do
    let (more, text) ← nextMember first text
    if more then
      let (name, text) ← readString text
      match fields.find? (·.name = name) with
      | some field =>
        if field.given draft then failAt (.duplicateField name) (afterObject text)
        else
          let text ← readColon text
          let (draft, text) ← field.read draft text
          readFields fields fuel false draft text
      | none =>
        let text ← readColon text
        let text ← skipValue text
        readFields fields fuel false draft text
    else return (draft, text)

/-- Reads the fields of a record in order from an array, up to its closing bracket; also answers
how many there were. -/
def readInOrder {δ : Type} : List (Field δ) → Nat → δ → Reader (δ × Option Nat)
  | [], _, draft, text => .ok ((draft, none), text)
  | field :: fields, index, draft, text => do
    let (more, text) ← nextElement (index = 0) text
    if more then
      let (draft, text) ← field.read draft text
      readInOrder fields (index + 1) draft text
    else return ((draft, some index), text)

/-- Takes the closing bracket after the last field of a record. -/
def readArrayEnd (text : List Char) : Except Fault (List Char) :=
  match skipSpacing text with
  | [] => failAt .endInList []
  | ']' :: rest => .ok rest
  | ',' :: rest =>
    match skipSpacing rest with
    | ']' :: rest => failAfter .trailingComma (']' :: rest)
    | rest => failAfter .trailingCharacters rest
  | rest => failAfter .trailingCharacters rest

/-- Reads a record. -/
def readRecord {δ ρ : Type} (shape : Shape δ ρ) : Reader ρ := fun text =>
  match skipSpacing text with
  | [] => failAt .endInValue []
  | '\x7b' :: rest => do
    let (draft, rest) ← readFields shape.fields rest.length true shape.blank rest
    let rest := afterObject rest
    match shape.finish draft with
    | .ok record => return (record, rest)
    | .error cause => failAt cause rest
  | '[' :: rest => do
    let ((draft, count), rest) ← readInOrder shape.fields 0 shape.blank rest
    match count.bind shape.short with
    | some cause => failAt cause (rest.drop 1)
    | none =>
      let rest ← readArrayEnd rest
      match shape.finish draft with
      | .ok record => return (record, rest)
      | .error cause => failAt cause rest
  | text => failShape shape.name text

end InventoryQuery.Json
