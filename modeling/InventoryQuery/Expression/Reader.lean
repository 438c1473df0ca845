import InventoryQuery.Expression.Basic
import InventoryQuery.Text.Blank
import InventoryQuery.Text.Utf8
/-! # Reading the query text

Each reader takes its part from the front of a text. When it fails it says where: a `mismatch` lets
another alternative try the same text, a `refusal` ends the reading, and so does a reader that is
`incomplete` without more text. Of several alternatives the last one's failure is the one reported,
and a repetition that meets a mismatch stops before the connective or comma that led to it. The text
is whole when it is read, so none of the readers here is ever incomplete (`Grammar.readWithin_at`).
-/

namespace InventoryQuery.Expression

open Text (isBlank isSpacing skipSpacing)

/-- Where and how reading failed: at the unread text, or for want of more text. -/
inductive Failure where
  | mismatch (unread : List Char)
  | refusal (unread : List Char)
  | incomplete
  deriving DecidableEq, Repr

/-- A reader takes something from the front of a text. -/
abbrev Reader (α : Type) := List Char → Except Failure (α × List Char)

/-- Takes a keyword, in either case of each letter. -/
def keyword? (word : String) (text : List Char) : Option (List Char) :=
  let length := word.toList.length
  if (text.take length).map Char.toLower = word.toList then some (text.drop length) else none

/-- Takes spacing, of which there must be some. -/
def spacing? : List Char → Option (List Char)
  | [] => none
  | c :: rest => if isSpacing c then some (skipSpacing rest) else none

/-- Takes the connective in front of another item, with the spacing around it. -/
def connective? (text : List Char) : Option (Connective × List Char) := do
  let text ← spacing? text
  let (connective, text) ←
    match keyword? "and" text with
    | some rest => some (Connective.and, rest)
    | none => (keyword? "or" text).map (Connective.or, ·)
  let text ← spacing? text
  return (connective, text)

/-- The characters that may stand in a word: none that is blank, and none of the excluded ones. -/
def isVisibleExcept (excluded : List Char) (c : Char) : Bool :=
  !isBlank c && excluded.all (c ≠ ·)

/-- The characters that may stand in a key. -/
def isKeyChar : Char → Bool :=
  isVisibleExcept ['=', '<', '>', '~', '(', ')', '\x22', ',']

/-- The characters that may stand in a host specification. -/
def isHostChar : Char → Bool :=
  isVisibleExcept ['(', ')', ',', ':', '=', '<', '>', '~', '\x22']

/-- The characters that may stand in a value without quotes. -/
def isValueChar : Char → Bool :=
  isVisibleExcept ['(', ')']

/-- The words that are no host specifications. -/
def isKeyword (word : List Char) : Bool :=
  ["and", "or", "not"].any fun keyword => word.map Char.toLower = keyword.toList

/-- Takes a comparison; the longer spelling is tried first. -/
def comparison? : List Char → Option (Comparison × List Char)
  | '>' :: '=' :: rest => some (.atLeast, rest)
  | '<' :: '=' :: rest => some (.atMost, rest)
  | '=' :: rest => some (.equal, rest)
  | '>' :: rest => some (.greater, rest)
  | '<' :: rest => some (.less, rest)
  | '~' :: rest => some (.matching, rest)
  | _ => none

/-- Takes a text between double quotes. -/
def quoted? : List Char → Option (String × List Char)
  | '\x22' :: rest =>
    match rest.dropWhile (· ≠ '\x22') with
    | [] => none
    | _ :: after => some (String.ofList (rest.takeWhile (· ≠ '\x22')), after)
  | _ => none

/-- Takes the longest front of characters of a class, which must not be empty. -/
def word? (isWordChar : Char → Bool) (text : List Char) : Option (String × List Char) :=
  match text.takeWhile isWordChar with
  | [] => none
  | word => some (String.ofList word, text.dropWhile isWordChar)

/-- Takes a value; a quote that is not closed belongs to a value without quotes. -/
def value? (text : List Char) : Option (String × List Char) :=
  (quoted? text).or (word? isValueChar text)

/-- Takes a comparison and its value. -/
def test? (text : List Char) : Option ((Comparison × String) × List Char) := do
  let (comparison, text) ← comparison? (skipSpacing text)
  let (value, text) ← value? (skipSpacing text)
  return ((comparison, value), text)

/-- Takes a host specification. -/
def host? (text : List Char) : Option (String × List Char) :=
  (word? isHostChar text).filter fun (host, _) => !isKeyword host.toList

/-- Takes the further hosts of a list; `fuel` bounds the length of the text. -/
def takeHosts (fuel : Nat) (text : List Char) : List String × List Char :=
  match fuel, text with
  | fuel + 1, ',' :: rest =>
    match host? rest with
    | some (host, rest) =>
      let (hosts, rest) := takeHosts fuel rest
      (host :: hosts, rest)
    | none => ([], text)
  | _, _ => ([], text)

/-- Reads a list of hosts. -/
def readHosts : Reader Atom := fun text =>
  match host? text with
  | none => .error (.mismatch text)
  | some (host, rest) =>
    let (hosts, rest) := takeHosts rest.length rest
    .ok (.hosts (host :: hosts), rest)

/-- Takes the letter of a category and its colon. -/
def category? : List Char → Option (Category × List Char)
  | 'F' :: ':' :: rest => some (.fact, rest)
  | 'R' :: ':' :: rest => some (.resource, rest)
  | _ => none

/-- Reads a condition. A fact without a comparison is refused right after its key; a text that is
no condition of a category is read as hosts. -/
def readAtom : Reader Atom := fun text =>
  match (do let (category, rest) ← category? text
            let (key, rest) ← word? isKeyChar rest
            return (category, key, rest) : Option (Category × String × List Char)) with
  | none => readHosts text
  | some (category, key, rest) =>
    match category, test? rest with
    | _, some (test, rest) => .ok (.condition category key (some test), rest)
    | .fact, none => .error (.refusal rest)
    | .resource, none => .ok (.condition .resource key none, rest)

/-- Reads a condition with or without a negation in front. -/
def readCondition : Reader Item := fun text =>
  match (keyword? "not" text).bind spacing? with
  | some rest => (readAtom rest).map fun (atom, rest) => (.atom true atom, rest)
  | none => (readAtom text).map fun (atom, rest) => (.atom false atom, rest)

/-- Reads an item, given the reader of the expressions in parentheses. What is no group is read as
a condition, so a group that is not closed is a mismatch at its parenthesis. -/
def readItem (inner : Reader Expression) : Reader Item := fun text =>
  match text with
  | '(' :: rest =>
    match inner (skipSpacing rest) with
    | .error (.mismatch _) => readCondition text
    | .error failure => .error failure
    | .ok (expression, rest) =>
      match skipSpacing rest with
      | ')' :: rest => .ok (.group expression.first expression.others, rest)
      | _ => readCondition text
  | _ => readCondition text

/-- Reads the items after the first one, each with the connective in front of it; `fuel` bounds the
length of the text. -/
def readOthers (item : Reader Item) (fuel : Nat) (text : List Char) :
    Except Failure (List (Connective × Item) × List Char) :=
  match fuel with
  | 0 => .ok ([], text)
  | fuel + 1 =>
    match connective? text with
    | none => .ok ([], text)
    | some (connective, rest) =>
      match item rest with
      | .error (.mismatch _) => .ok ([], text)
      | .error failure => .error failure
      | .ok (next, rest) => do
        let (others, rest) ← readOthers item fuel rest
        return ((connective, next) :: others, rest)

/-- Reads an expression in which parentheses nest less deep than `fuel`. -/
def readWithin (fuel : Nat) : Reader Expression := fun text =>
  match fuel with
  | 0 => .error (.mismatch text)
  | fuel + 1 => do
    let (first, rest) ← readItem (readWithin fuel) text
    let (others, rest) ← readOthers (readItem (readWithin fuel)) rest.length rest
    return (⟨first, others⟩, rest)

/-- Reads an expression. No expression nests deeper than it has parentheses. -/
def read : Reader Expression := fun text =>
  readWithin (text.count '(' + 1) text

/-- The length of the excerpt that a syntax error shows. -/
def excerptLength : Nat := 20

/-- The error for a text that cannot be read on at a place. -/
def syntaxError (text unread : List Char) : QueryError :=
  .syntaxError (Text.offset text unread) (String.ofList (unread.take excerptLength))

/-- The error for a text whose reading failed. More text would be wanted behind all of it. -/
def Failure.toError (text : List Char) : Failure → QueryError
  | mismatch unread | refusal unread => syntaxError text unread
  | incomplete => .incomplete (Text.byteLength text)

/-- Reads a whole text as an expression, with spacing around it. -/
def parse (text : String) : Except QueryError Expression :=
  let chars := text.toList
  if chars.all isBlank then .error .blank
  else
    match read (skipSpacing chars) with
    | .error failure => .error (failure.toError chars)
    | .ok (expression, rest) =>
      match skipSpacing rest with
      | [] => .ok expression
      | unread => .error (syntaxError chars unread)

end InventoryQuery.Expression

namespace InventoryQuery

/-- The query of a text. -/
def Query.parse (text : String) : Except QueryError Query := do
  let expression ← Expression.parse text
  expression.query

end InventoryQuery
