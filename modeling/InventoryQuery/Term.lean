import InventoryQuery.Json.Basic
import InventoryQuery.Operator
/-! # Conditions on the wire

A term is a condition of the service's query language, which writes it as a nested JSON array. What
identifies a host differs between endpoints, so a host condition leaves its field open until
`Term.render` is told the host key.
-/

namespace InventoryQuery

/-- What a comparison looks at. -/
inductive Operand where
  | fact (key : String)
  | field (name : String)
  | parameter (name : String)
  /-- The field that identifies a host on the endpoint that is asked. -/
  | hostKey
  deriving DecidableEq, Repr

/-- A condition. -/
inductive Term where
  | compare (comparison : Comparison) (operand : Operand) (value : String)
  | not (term : Term)
  | combine (connective : Connective) (terms : List Term)
  deriving Repr

namespace Operand

/-- The text of an operand for a host key. -/
def render (hostKey : String) : Operand → String
  | fact key => "[\"fact\", " ++ Json.quote key ++ "]"
  | field name => Json.quote name
  | parameter name => "[\"parameter\", " ++ Json.quote name ++ "]"
  | .hostKey => Json.quote hostKey

/-- The value of an operand for a host key. -/
def toJson (hostKey : String) : Operand → Json
  | fact key => .array [.string "fact", .string key]
  | field name => .string name
  | parameter name => .array [.string "parameter", .string name]
  | .hostKey => .string hostKey

end Operand

namespace Term

/-- What stands for the host key while none is known. -/
def hostKeyPlaceholder : String := "\x7bhost_key\x7d"

/-- Negates a term if asked to. -/
def negateIf (negated : Bool) (term : Term) : Term :=
  if negated then .not term else term

mutual

/-- The text of a term for a host key. -/
def render (hostKey : String) : Term → String
  | compare comparison operand value =>
    "[" ++ Json.quote comparison.text ++ ", " ++ operand.render hostKey ++ ", " ++
      Json.quote value ++ "]"
  | not term => "[\"not\", " ++ render hostKey term ++ "]"
  | combine connective terms =>
    "[" ++ Json.quote connective.text ++ renderEach hostKey terms ++ "]"

/-- The texts of some terms, a comma and a space before each. -/
def renderEach (hostKey : String) : List Term → String
  | [] => ""
  | term :: terms => ", " ++ render hostKey term ++ renderEach hostKey terms

end

mutual

/-- The nested array of a term for a host key. -/
def toJson (hostKey : String) : Term → Json
  | compare comparison operand value =>
    .array [.string comparison.text, operand.toJson hostKey, .string value]
  | not term => .array [.string "not", toJson hostKey term]
  | combine connective terms => .array (.string connective.text :: toJsonEach hostKey terms)

/-- The nested arrays of some terms. -/
def toJsonEach (hostKey : String) : List Term → List Json
  | [] => []
  | term :: terms => toJson hostKey term :: toJsonEach hostKey terms

end

/-- The text of a term while no host key is known. -/
def display (term : Term) : String :=
  term.render hostKeyPlaceholder

mutual

/-- Equality of terms is decidable. -/
def decEq : (left right : Term) → Decidable (left = right)
  | compare c o v, compare c' o' v' =>
    decidable_of_iff (c = c' ∧ o = o' ∧ v = v') (by simp)
  | not t, not t' =>
    match decEq t t' with
    | isTrue same => isTrue (by rw [same])
    | isFalse differ => isFalse (by simpa using differ)
  | combine c ts, combine c' ts' =>
    match decEqEach ts ts' with
    | isTrue same => decidable_of_iff (c = c') (by simp [same])
    | isFalse differ => isFalse (by simp [differ])
  | compare .., not _ => isFalse (by simp)
  | compare .., combine .. => isFalse (by simp)
  | not _, compare .. => isFalse (by simp)
  | not _, combine .. => isFalse (by simp)
  | combine .., compare .. => isFalse (by simp)
  | combine .., not _ => isFalse (by simp)

/-- Equality of lists of terms is decidable. -/
def decEqEach : (left right : List Term) → Decidable (left = right)
  | [], [] => isTrue rfl
  | [], _ :: _ => isFalse (by simp)
  | _ :: _, [] => isFalse (by simp)
  | t :: ts, t' :: ts' =>
    match decEq t t', decEqEach ts ts' with
    | isTrue same, isTrue same' => isTrue (by rw [same, same'])
    | isFalse differ, _ => isFalse (by simp [differ])
    | _, isFalse differ => isFalse (by simp [differ])

end

instance : DecidableEq Term := decEq

end Term

end InventoryQuery
