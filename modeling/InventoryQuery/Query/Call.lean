import InventoryQuery.Query.Basic
/-! # Calls on a query as data

A program that builds a query is a list of calls. `Query.perform` makes one call; a refused call is
answered with its refusal, and the program goes on. `Query.run` makes all of them and keeps every
answer.
-/

namespace InventoryQuery

/-- A call on a query under construction. -/
inductive Call where
  | setCategory (category : Category)
  | addCondition (category : Category) (key : String) (value : Option String)
      (comparison : Comparison) (negated : Bool)
  | addHosts (hosts : List String) (negated : Bool)
  | openGroup
  | closeGroup
  | declare (connective : Connective)
  deriving DecidableEq, Repr

namespace Call

/-- The call that adds an equality on a fact. -/
def addFact (key value : String) : Call :=
  addCondition .fact key (some value) .equal false

/-- The call that adds an equality on a resource. -/
def addResource (key : String) (value : Option String) : Call :=
  addCondition .resource key value .equal false

/-- The operation of a call; only opening a group has something to tell, the id of the group. -/
def builder : Call → Builder (Option Nat)
  | setCategory category => do
    Builder.setCategory category
    return none
  | addCondition category key value comparison negated => do
    Builder.addCondition category key value comparison negated
    return none
  | addHosts hosts negated => do
    Builder.addHosts hosts negated
    return none
  | openGroup => some <$> Builder.openGroup
  | closeGroup => do
    Builder.closeGroup
    return none
  | declare connective => do
    Builder.declare connective
    return none

end Call

/-- The answer to a call. -/
abbrev Answer := Except QueryError (Option Nat)

namespace Query

/-- Makes one call. -/
def perform (query : Query) (call : Call) : Answer × Query :=
  match call.builder query with
  | .ok told query => (.ok told, query)
  | .error refusal query => (.error refusal, query)

/-- Makes some calls in order, whether they are refused or not. -/
def run (query : Query) : List Call → List Answer × Query
  | [] => ([], query)
  | call :: calls =>
    let (answer, next) := query.perform call
    let (answers, last) := next.run calls
    (answer :: answers, last)

theorem run_cons (query : Query) (call : Call) (calls : List Call) :
    query.run (call :: calls) =
      ((query.perform call).1 :: ((query.perform call).2.run calls).1,
        ((query.perform call).2.run calls).2) := rfl

theorem run_append (query : Query) (calls others : List Call) :
    query.run (calls ++ others) =
      ((query.run calls).1 ++ ((query.run calls).2.run others).1,
        ((query.run calls).2.run others).2) := by
  induction calls generalizing query with
  | nil => rfl
  | cons call calls ih => rw [List.cons_append, run_cons, run_cons, ih, List.cons_append]

/-- The query that some calls build, starting from the query without any condition. -/
def ofCalls (calls : List Call) : Query :=
  (empty.run calls).2

end Query

end InventoryQuery
