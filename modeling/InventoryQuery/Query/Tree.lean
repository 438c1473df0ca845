import InventoryQuery.Query.Basic
/-! # The tree of groups and its text

`Query.tree` follows the ids from the root and yields the groups as a tree. The text of a query is
the text of this tree: a group with one token is that token, a group with several is an array that
needs a declared connective, and a query without any condition has no text.
-/

namespace InventoryQuery

/-- A group with everything below it, or a condition. -/
inductive Tree where
  | term (term : Term)
  | group (id : Nat) (connective : Option Connective) (members : List Tree)
  deriving Repr

/-- The outcome of rendering: a text, none where there is no condition, or a refusal. -/
abbrev Rendered := Except QueryError (Option String)

namespace Tree

/-- The texts of the members of a group with several, a comma and a space before each. A member
without any condition is refused. -/
def joinTexts (connective : Connective) : List Rendered → Except QueryError String
  | [] => .ok ""
  | member :: members => do
    match ← member with
    | none => throw (.emptySubgroup connective)
    | some text =>
      let texts ← joinTexts connective members
      return ", " ++ text ++ texts

/-- The outcome for a group from the outcomes for its members. -/
def join : Option Connective → List Rendered → Rendered
  | _, [] => .ok none
  | _, [member] => member
  | none, members => .error (.missingConnective members.length)
  | some connective, members => do
    let texts ← joinTexts connective members
    return some ("[" ++ Json.quote connective.text ++ texts ++ "]")

mutual

/-- The text of a tree for a host key; none if it holds no condition. -/
def render (hostKey : String) : Tree → Rendered
  | term t => .ok (some (t.render hostKey))
  | group _ connective members => join connective (renderEach hostKey members)
termination_by structural tree => tree

/-- The outcomes for some trees. -/
def renderEach (hostKey : String) : List Tree → List Rendered
  | [] => []
  | member :: members => render hostKey member :: renderEach hostKey members
termination_by structural members => members

end

end Tree

namespace Query

/-- The tree below a group; `fuel` bounds its height. An id that is no group has no tree. -/
def treeWithin (query : Query) : (fuel id : Nat) → Except QueryError Tree
  | 0, id => .error (.unknownGroup id)
  | fuel + 1, id =>
    match query.group? id with
    | none => .error (.unknownGroup id)
    | some group => do
      let members ← group.tokens.mapM fun token =>
        match token with
        | .term term => .ok (Tree.term term)
        | .group child => query.treeWithin fuel child
      return .group id group.connective members

/-- The tree below a group. -/
def treeAt (query : Query) (id : Nat) : Except QueryError Tree :=
  query.treeWithin query.groups.size id

/-- The tree of all groups. -/
def tree (query : Query) : Except QueryError Tree :=
  query.treeAt 0

/-- The text of a group for a host key. -/
def renderGroup (query : Query) (hostKey : String) (id : Nat) : Rendered := do
  let tree ← query.treeAt id
  tree.render hostKey

/-- The text of a query for a host key; none if it matches everything. -/
def render (query : Query) (hostKey : String) : Rendered :=
  query.renderGroup hostKey 0

end Query

end InventoryQuery
