import InventoryQuery.Query.Basic
/-! # Expressions of the query text

An expression is a sequence of items joined by connectives; an item is a condition, possibly
negated, or an expression in parentheses. `Expression.build` builds the query of an expression: each
pair of parentheses is a subgroup, and each connective is declared where it stands.
-/

namespace InventoryQuery

/-- A condition of the query text. -/
inductive Atom where
  | condition (category : Category) (key : String) (test : Option (Comparison × String))
  | hosts (hosts : List String)
  deriving DecidableEq, Repr

/-- An item of the query text. -/
inductive Item where
  | atom (negated : Bool) (atom : Atom)
  | group (first : Item) (others : List (Connective × Item))
  deriving Repr

/-- Items joined by connectives. -/
structure Expression where
  first : Item
  others : List (Connective × Item)
  deriving Repr

/-- Adds the condition of an atom. -/
def Atom.build (negated : Bool) : Atom → Builder Unit
  | condition category key none => Builder.addCondition category key none .equal negated
  | condition category key (some (comparison, value)) =>
    Builder.addCondition category key (some value) comparison negated
  | .hosts names => Builder.addHosts names negated

mutual

/-- Adds what an item stands for. -/
def Item.build : Item → Builder Unit
  | .atom negated condition => condition.build negated
  | .group first others => do
    discard Builder.openGroup
    Item.build first
    Item.buildOthers others
    Builder.closeGroup
termination_by structural item => item

/-- Declares the connectives and adds the items that follow the first one. -/
def Item.buildOthers : List (Connective × Item) → Builder Unit
  | [] => pure ()
  | (connective, item) :: others => do
    Builder.declare connective
    Item.build item
    Item.buildOthers others
termination_by structural others => others

end

/-- Adds what an expression stands for. -/
def Expression.build (expression : Expression) : Builder Unit := do
  expression.first.build
  Item.buildOthers expression.others

/-- The query of an expression, or the first refusal of a call. -/
def Expression.query (expression : Expression) : Except QueryError Query :=
  match expression.build Query.empty with
  | .ok () query => .ok query
  | .error refusal _ => .error refusal

end InventoryQuery
