import InventoryQuery.Error
import InventoryQuery.HostPattern
/-! # Queries under construction

A query is a tree of groups kept in the order in which they were opened, with a cursor on the group
that receives the next condition. Group 0 is the root. A group refers to its parent and to its
subgroups by their ids.

The operations are `Builder`s: they run on a query and leave one behind, also when they refuse.
-/

namespace InventoryQuery

/-- What a group holds: a condition, or a subgroup by its id. -/
inductive Token where
  | term (term : Term)
  | group (id : Nat)
  deriving DecidableEq, Repr

/-- A group: the group around it, the connective declared for it, and what it holds. -/
structure Group where
  parent : Option Nat := none
  connective : Option Connective := none
  tokens : List Token := []
  deriving DecidableEq, Repr

/-- A query under construction. -/
structure Query where
  groups : Array Group
  cursor : Nat
  category : Option Category
  deriving DecidableEq, Repr

/-- An operation on a query under construction. -/
abbrev Builder (α : Type) := EStateM QueryError Query α

namespace Query

/-- The query without any condition. -/
def empty : Query :=
  ⟨#[{}], 0, none⟩

instance : Inhabited Query := ⟨empty⟩

/-- The group with an id. -/
def group? (query : Query) (id : Nat) : Option Group :=
  query.groups[id]?

/-- The group under the cursor. -/
def current (query : Query) : Group :=
  (query.group? query.cursor).getD {}

/-- The root group. -/
def root (query : Query) : Group :=
  (query.group? 0).getD {}

/-- Whether the cursor is on the root. -/
def atRoot (query : Query) : Bool :=
  query.cursor == 0

/-- The number of groups around a group; `fuel` bounds it. -/
def depthAt (query : Query) (fuel id : Nat) : Nat :=
  match fuel with
  | 0 => 0
  | fuel + 1 =>
    match (query.group? id).bind (·.parent) with
    | none => 0
    | some parent => query.depthAt fuel parent + 1

/-- The number of open subgroups around the cursor. -/
def depth (query : Query) : Nat :=
  query.depthAt query.groups.size query.cursor

/-- Changes the group under the cursor. -/
def updateCurrent (query : Query) (change : Group → Group) : Query :=
  { query with groups := query.groups.modify query.cursor change }

end Query

namespace Builder

/-- Fixes the category of the query; another category than the fixed one is refused. -/
def setCategory (category : Category) : Builder Unit := fun query =>
  match query.category with
  | none => .ok () { query with category := some category }
  | some current =>
    if current = category then .ok () query
    else .error (.categoryConflict current category) query

/-- Adds a token to the group under the cursor. -/
def push (token : Token) : Builder Unit := fun query =>
  .ok () (query.updateCurrent fun group => { group with tokens := group.tokens ++ [token] })

/-- The condition of a category on a key: a fact needs a value, a resource key must be well
formed. -/
def condition (category : Category) (key : String) (value : Option String)
    (comparison : Comparison) : Except QueryError Term :=
  match category with
  | .fact =>
    match value with
    | some value => .ok (.compare comparison (.fact key) value)
    | none => .error (.factWithoutValue key)
  | .resource =>
    match ResourceKey.parse key with
    | .ok parsed => .ok (parsed.toTerm value comparison)
    | .error reason => .error (.badResourceKey key reason)

/-- Adds a condition of a category to the group under the cursor. -/
def addCondition (category : Category) (key : String) (value : Option String)
    (comparison : Comparison) (negated : Bool) : Builder Unit := do
  match condition category key value comparison with
  | .error refusal => throw refusal
  | .ok term =>
    setCategory category
    push (.term (Term.negateIf negated term))

/-- Adds the condition that one of some hosts matches; nothing for no host. -/
def addHosts (hosts : List String) (negated : Bool) : Builder Unit :=
  match HostPattern.anyOf? hosts negated with
  | none => pure ()
  | some term => push (.term term)

/-- Opens a subgroup of the group under the cursor and moves the cursor into it. -/
def openGroup : Builder Nat := fun query =>
  let id := query.groups.size
  let opened := query.updateCurrent fun group => { group with tokens := group.tokens ++ [.group id] }
  .ok id { opened with
    groups := opened.groups.push { parent := some query.cursor }
    cursor := id }

/-- Moves the cursor to the group around it. -/
def closeGroup : Builder Unit := fun query =>
  match query.current.parent with
  | none => .error .noOpenGroup query
  | some parent => .ok () { query with cursor := parent }

/-- Declares the connective of the group under the cursor; another one than the declared one is
refused. -/
def declare (connective : Connective) : Builder Unit := fun query =>
  match query.current.connective with
  | none => .ok () (query.updateCurrent fun group => { group with connective := some connective })
  | some declared =>
    if declared = connective then .ok () query
    else .error (.connectiveConflict declared connective) query

end Builder

end InventoryQuery
