import InventoryQuery.Category
import InventoryQuery.ResourceKey
/-! # What can be wrong with a query

One type for the refusals of the query text, of the calls that build a query, and of a group tree
that cannot be serialized. The wording is in `QueryError.message` alone.
-/

namespace InventoryQuery

/-- Why a query is refused. -/
inductive QueryError where
  | categoryConflict (current requested : Category)
  | unknownCategory (text : String)
  | badResourceKey (key : String) (reason : ResourceKey.Fault)
  | unknownComparison (text : String)
  | factWithoutValue (key : String)
  | noOpenGroup
  | connectiveConflict (declared requested : Connective)
  | missingConnective (tokens : Nat)
  | emptySubgroup (connective : Connective)
  | unknownGroup (id : Nat)
  | syntaxError (position : Nat) (excerpt : String)
  | incomplete (position : Nat)
  | blank
  deriving DecidableEq, Repr

namespace QueryError

/-- The message for a refusal. -/
def message : QueryError → String
  | categoryConflict current requested =>
    "mixed " ++ current.letter ++ " and " ++ requested.letter ++ " queries are not supported"
  | unknownCategory text => "invalid category value '" ++ text ++ "'"
  | badResourceKey key reason => "invalid resource key '" ++ key ++ "': " ++ reason.message
  | unknownComparison text => "invalid comparison operator '" ++ text ++ "'"
  | factWithoutValue key => "invalid query: fact condition on '" ++ key ++ "' has no value"
  | noOpenGroup => "invalid query: no open subgroup to close"
  | connectiveConflict declared requested =>
    "invalid query: got unexpected '" ++ requested.text ++
      "' boolean operator, current operator was '" ++ declared.text ++ "'"
  | missingConnective tokens =>
    "invalid query: group with " ++ toString tokens ++ " tokens has no boolean operator"
  | emptySubgroup connective =>
    "invalid query: empty subgroup inside an '" ++ connective.text ++ "' combination"
  | unknownGroup id => "invalid query: unknown group " ++ toString id
  | syntaxError position excerpt =>
    "parse error at position " ++ toString position ++ ": unexpected input at: '" ++ excerpt ++ "'"
  | incomplete position => "parse error at position " ++ toString position ++ ": incomplete query"
  | blank => "empty query expression"

end QueryError

/-- Reads a category; every other text is refused. -/
def Category.parse (text : String) : Except QueryError Category :=
  match Category.parse? text with
  | some category => .ok category
  | none => .error (.unknownCategory text)

/-- Reads a comparison; every other text is refused. -/
def Comparison.parse (text : String) : Except QueryError Comparison :=
  match Comparison.parse? text with
  | some comparison => .ok comparison
  | none => .error (.unknownComparison text)

end InventoryQuery
