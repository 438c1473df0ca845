import InventoryQuery.Term
/-! # Resource keys

A resource key names a resource type and at most one selector: `File@tag` a field, `File%ensure` a
parameter. The selector begins at the first separator and may itself hold the same separator again.
-/

namespace InventoryQuery

/-- A resource type and what is selected of its resources. -/
inductive ResourceKey where
  | type (type : String)
  | parameter (type parameter : String)
  | field (type field : String)
  deriving DecidableEq, Repr

namespace ResourceKey

/-- Why a text is no resource key. -/
inductive Fault where
  | twoSelectors
  | missingType
  deriving DecidableEq, Repr

/-- The reason in a message. -/
def Fault.message : Fault → String
  | twoSelectors => "resource key cannot contain both a field and a parameter selector"
  | missingType => "missing resource type"

/-- Splits a text at the first occurrence of a separator. -/
def split (separator : Char) (text : List Char) : String × String :=
  (String.ofList (text.takeWhile (· ≠ separator)),
    String.ofList ((text.dropWhile (· ≠ separator)).drop 1))

/-- The resource type of a key. -/
def resourceType : ResourceKey → String
  | type t => t
  | parameter t _ => t
  | field t _ => t

/-- Reads a resource key. -/
def parse (key : String) : Except Fault ResourceKey :=
  let text := key.toList
  if '@' ∈ text ∧ '%' ∈ text then .error .twoSelectors
  else
    let parsed :=
      if '@' ∈ text then field (split '@' text).1 (split '@' text).2
      else if '%' ∈ text then parameter (split '%' text).1 (split '%' text).2
      else type key
    if parsed.resourceType = "" then .error .missingType else .ok parsed

/-- Writes a resource key. -/
def text : ResourceKey → String
  | type t => t
  | parameter t p => t ++ "%" ++ p
  | field t f => t ++ "@" ++ f

/-- What a comparison of the key looks at: the title where nothing is selected. -/
def operand : ResourceKey → Operand
  | type _ => .field "title"
  | parameter _ p => .parameter p
  | field _ f => .field f

/-- The condition of a key: the type always, and the selected comparison unless a bare type is
given without a value. A selector without a value is compared with the empty text. -/
def toTerm (key : ResourceKey) (value : Option String) (comparison : Comparison) : Term :=
  let type := Term.compare .equal (.field "type") key.resourceType
  let selected := Term.compare comparison key.operand (value.getD "")
  match key, value with
  | .type _, none => .combine .and [type]
  | _, _ => .combine .and [type, selected]

end ResourceKey

end InventoryQuery
