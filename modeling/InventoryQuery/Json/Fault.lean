import InventoryQuery.Json.Writer
import InventoryQuery.Text.Quoted
import InventoryQuery.Text.Utf8
/-! # What can be wrong with a JSON text, and where

A fault holds its cause and what was unread when it was found; `Fault.toError` turns the unread part
into a line and a column of the whole text. Columns count bytes, and a fault found while looking at
a byte lies after that byte.
-/

namespace InventoryQuery.Json

/-- What stood where a value of another shape was wanted. -/
inductive Found where
  | null
  | bool (value : Bool)
  | number (value : Number)
  | string (value : String)
  | array
  | object
  deriving DecidableEq, Repr

/-- What is wrong with a JSON text. -/
inductive Cause where
  | endInList
  | endInObject
  | endInString
  | endInValue
  | expectedColon
  | expectedListEnd
  | expectedObjectEnd
  | expectedWord
  | expectedValue
  | invalidEscape
  | invalidNumber
  | numberOutOfRange
  | unpairedSurrogate
  | keyNotString
  | trailingComma
  | trailingCharacters
  | endOfSurrogatePair
  | controlInString
  | tooDeep
  | wrongType (found : Found) (expected : String)
  | wrongValue (found : Found) (expected : String)
  | wrongLength (length : Nat) (expected : String)
  | missingField (name : String)
  | duplicateField (name : String)
  deriving DecidableEq, Repr

/-- How a message names what stood in the text. -/
def Found.text : Found → String
  | null => "null"
  | bool true => "boolean `true`"
  | bool false => "boolean `false`"
  | number (.double d) => "floating point `" ++ (Number.double d).text ++ "`"
  | number n => "integer `" ++ n.text ++ "`"
  | string s => "string " ++ Text.quoted s
  | array => "sequence"
  | object => "map"

/-- The message for a cause. -/
def Cause.message : Cause → String
  | endInList => "EOF while parsing a list"
  | endInObject => "EOF while parsing an object"
  | endInString => "EOF while parsing a string"
  | endInValue => "EOF while parsing a value"
  | expectedColon => "expected `:`"
  | expectedListEnd => "expected `,` or `]`"
  | expectedObjectEnd => "expected `,` or `\x7d`"
  | expectedWord => "expected ident"
  | expectedValue => "expected value"
  | invalidEscape => "invalid escape"
  | invalidNumber => "invalid number"
  | numberOutOfRange => "number out of range"
  | unpairedSurrogate => "lone leading surrogate in hex escape"
  | keyNotString => "key must be a string"
  | trailingComma => "trailing comma"
  | trailingCharacters => "trailing characters"
  | endOfSurrogatePair => "unexpected end of hex escape"
  | controlInString => "control character (\\u0000-\\u001F) found while parsing a string"
  | tooDeep => "recursion limit exceeded"
  | wrongType found expected => "invalid type: " ++ found.text ++ ", expected " ++ expected
  | wrongValue found expected => "invalid value: " ++ found.text ++ ", expected " ++ expected
  | wrongLength length expected =>
    "invalid length " ++ toString length ++ ", expected " ++ expected
  | missingField name => "missing field `" ++ name ++ "`"
  | duplicateField name => "duplicate field `" ++ name ++ "`"

/-- A place in a text: lines count from one, columns count the bytes since the line began. -/
structure Position where
  line : Nat
  column : Nat
  deriving DecidableEq, Repr

/-- The place that lies a number of bytes after another one. -/
def Position.advance (start : Position) : List Char → Nat → Position
  | [], _ => start
  | c :: rest, count =>
    if count < c.utf8Size then ⟨start.line, start.column + count⟩
    else if c = '\n' then Position.advance ⟨start.line + 1, 0⟩ rest (count - 1)
    else
      Position.advance ⟨start.line, start.column + c.utf8Size⟩ rest (count - c.utf8Size)

/-- A fault: its cause, what was unread when it was found, and how many bytes of that lie before
the place to report. -/
structure Fault where
  cause : Cause
  unread : List Char
  ahead : Nat := 0

/-- A fault at its place in a text. -/
structure Error where
  cause : Cause
  position : Position
  deriving DecidableEq, Repr

/-- Finds the place of a fault in the whole text. -/
def Fault.toError (text : List Char) (fault : Fault) : Error :=
  let ahead := min fault.ahead (Text.byteLength fault.unread)
  ⟨fault.cause, Position.advance ⟨1, 0⟩ text (Text.offset text fault.unread + ahead)⟩

/-- The message for an error, with its place. -/
def Error.message (error : Error) : String :=
  error.cause.message ++ " at line " ++ toString error.position.line ++ " column " ++
    toString error.position.column

/-- A reader takes a value from the front of a text. -/
abbrev Reader (α : Type) := List Char → Except Fault (α × List Char)

/-- Fails at the place where the unread text begins. -/
def failAt {α : Type} (cause : Cause) (unread : List Char) : Except Fault α :=
  .error ⟨cause, unread, 0⟩

/-- Fails after the byte that was looked at. -/
def failAfter {α : Type} (cause : Cause) (unread : List Char) : Except Fault α :=
  .error ⟨cause, unread, 1⟩

end InventoryQuery.Json
