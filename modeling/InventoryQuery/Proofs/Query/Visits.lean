import InventoryQuery.Proofs.Query.Depth
import InventoryQuery.Proofs.Query.Outcome
/-! # The groups that are rendered

Rendering goes from a group into its subgroups, and back where it finds no further ones or a refusal.
Written down with a limit on its depth (`Query.renderFrom`) it ends, on every arena that calls build,
if the limit is as large as the arena. It meets the groups in the order of the walk, each once, up to
the refusal if there is one.
-/

namespace InventoryQuery

namespace Query

/-- Renders a token, given the rendering of subgroups. The groups that are rendered are put behind
those that were rendered before. -/
def renderToken (hostKey : String) (subgroup : Nat → List Nat → Option (Rendered × List Nat)) :
    Token → List Nat → Option (Rendered × List Nat)
  | .term t, met => some (.ok (some (t.render hostKey)), met)
  | .group child, met => subgroup child met

/-- Renders the tokens of a group with several, up to the first that has no text. -/
def renderTokens (hostKey : String) (subgroup : Nat → List Nat → Option (Rendered × List Nat))
    (connective : Connective) : List Token → List Nat → Option (Except QueryError String × List Nat)
  | [], met => some (.ok "", met)
  | token :: tokens, met => do
    let (outcome, met) ← renderToken hostKey subgroup token met
    match outcome with
    | .error refusal => return (.error refusal, met)
    | .ok none => return (.error (.emptySubgroup connective), met)
    | .ok (some text) => do
      let (texts, met) ← renderTokens hostKey subgroup connective tokens met
      return (texts.map fun texts => ", " ++ text ++ texts, met)

/-- Renders a group by rendering what it holds. There is no outcome if subgroups nest deeper than the
limit. -/
def renderFrom (query : Query) (hostKey : String) :
    (limit id : Nat) → List Nat → Option (Rendered × List Nat)
  | 0, _, _ => none
  | limit + 1, id, met =>
    match query.group? id with
    | none => some (.error (.unknownGroup id), met)
    | some group =>
      match group.tokens, group.connective with
      | [], _ => some (.ok none, met ++ [id])
      | [token], _ => renderToken hostKey (query.renderFrom hostKey limit) token (met ++ [id])
      | tokens, none => some (.error (.missingConnective tokens.length), met ++ [id])
      | tokens, some connective => do
        let (texts, met) ←
          renderTokens hostKey (query.renderFrom hostKey limit) connective tokens (met ++ [id])
        return (texts.map fun texts => some ("[" ++ Json.quote connective.text ++ texts ++ "]"), met)

end Query

namespace Tree

variable {query : Query} (hostKey : String)

/-- The ids of the groups on a walk from below a parent. -/
def idsFrom (parent : Option Nat) (tree : Tree) : List Nat :=
  (tree.walk parent).filterMap Stop.id?

theorem idsFrom_group (parent : Option Nat) (id : Nat) (connective : Option Connective)
    (members : List Tree) :
    idsFrom parent (.group id connective members) =
      id :: members.flatMap (idsFrom (some id)) := by
  rw [idsFrom, walk_group, List.filterMap_cons, List.filterMap_flatMap]
  rfl

/-- Rendering ends with an outcome, and the groups that are rendered for it are the first ones of some
groups, all of them if there is no refusal. -/
def Meets {α : Type} (rendering : List Nat → Option (Except QueryError α × List Nat))
    (outcome : Except QueryError α) (ids : List Nat) : Prop :=
  ∃ visited, visited <+: ids ∧ (outcome.isOk = true → visited = ids) ∧
    ∀ met, rendering met = some (outcome, met ++ visited)

section Meets

variable {α β : Type} {rendering inner : List Nat → Option (Except QueryError α × List Nat)}
  {outcome : Except QueryError α} {ids : List Nat}

/-- A group is rendered itself before what is rendered for its members. -/
theorem Meets.cons (meets : Meets inner outcome ids) {id : Nat}
    (begins : ∀ met, rendering met = inner (met ++ [id])) : Meets rendering outcome (id :: ids) := by
  obtain ⟨visited, front, full, ends⟩ := meets
  refine ⟨id :: visited, (List.prefix_cons_inj id).mpr front, fun ok => ?_, fun met => ?_⟩
  · rw [full ok]
  · rw [begins, ends, List.append_assoc]
    rfl

/-- What becomes of the texts plays no part in what is rendered. -/
theorem Meets.map (meets : Meets inner outcome ids) (f : α → β) :
    Meets (fun met => (inner met).map fun ended => (ended.1.map f, ended.2)) (outcome.map f) ids := by
  obtain ⟨visited, front, full, ends⟩ := meets
  refine ⟨visited, front, fun ok => full (by cases outcome <;> exact ok), fun met => ?_⟩
  simp only [ends, Option.map_some]

end Meets

/-- Several members are rendered one after the other, up to the first without a text. -/
theorem meets_renderTokens {subgroup : Nat → List Nat → Option (Rendered × List Nat)}
    {parent : Option Nat} (connective : Connective) {members : List Tree}
    (each : ∀ member ∈ members, Meets (Query.renderToken hostKey subgroup member.token)
      (member.render hostKey) (member.idsFrom parent)) :
    Meets (Query.renderTokens hostKey subgroup connective (members.map token))
      (joinTexts connective (members.map (render hostKey))) (members.flatMap (idsFrom parent)) := by
  induction members with
  | nil =>
    refine ⟨[], List.nil_prefix, fun _ => rfl, fun met => ?_⟩
    rw [List.map_nil, Query.renderTokens, List.append_nil]
    rfl
  | cons member members ih =>
    obtain ⟨first, front, full, ends⟩ := each member List.mem_cons_self
    obtain ⟨others, front', full', ends'⟩ := ih fun other present =>
      each other (List.mem_cons_of_mem _ present)
    rw [List.map_cons, List.map_cons, List.flatMap_cons]
    have early (refusal : QueryError)
        (refused : joinTexts connective (member.render hostKey :: members.map (render hostKey)) =
          .error refusal)
        (stops : ∀ met, Query.renderTokens hostKey subgroup connective
          (member.token :: members.map token) met = some (.error refusal, met ++ first)) :
        Meets (Query.renderTokens hostKey subgroup connective (member.token :: members.map token))
          (joinTexts connective (member.render hostKey :: members.map (render hostKey)))
          (member.idsFrom parent ++ members.flatMap (idsFrom parent)) := by
      rw [refused]
      exact ⟨first, front.trans (List.prefix_append _ _), (fun ok => by cases ok), stops⟩
    cases outcome : member.render hostKey with
    | error refusal =>
      rw [outcome] at ends early
      refine early refusal rfl fun met => ?_
      rw [Query.renderTokens, ends]
      rfl
    | ok text? =>
      cases text? with
      | none =>
        rw [outcome] at ends early
        refine early (.emptySubgroup connective) rfl fun met => ?_
        rw [Query.renderTokens, ends]
        rfl
      | some text =>
        rw [outcome] at ends full
        obtain rfl := full rfl
        have joins : joinTexts connective (.ok (some text) :: members.map (render hostKey)) =
            (joinTexts connective (members.map (render hostKey))).map (", " ++ text ++ ·) := by
          rw [joinTexts]
          cases joinTexts connective (members.map (render hostKey)) <;> rfl
        rw [joins]
        refine ⟨member.idsFrom parent ++ others, (List.prefix_append_right_inj _).mpr front', ?_, ?_⟩
        · intro ok
          cases joined : joinTexts connective (members.map (render hostKey)) with
          | error refusal =>
            rw [joined] at ok
            cases ok
          | ok texts =>
            rw [joined] at full'
            rw [full' rfl]
        · intro met
          rw [Query.renderTokens, ends]
          simp only [Option.bind_some, bind, ends', List.append_assoc]
          rfl

/-- Following the ids of an arena that holds a tree renders the tree. -/
theorem meets_renderToken {parent : Option Nat} {limit : Nat} (tree : Tree)
    (held : tree.HeldBy query parent) (enough : tree.size parent ≤ limit) :
    Meets (Query.renderToken hostKey (query.renderFrom hostKey limit) tree.token)
      (tree.render hostKey) (tree.idsFrom parent) := by
  induction tree generalizing parent limit with
  | term t =>
    refine ⟨[], List.nil_prefix, fun _ => rfl, fun met => ?_⟩
    rw [token, Query.renderToken, List.append_nil]
    rfl
  | group id connective members ih =>
    obtain ⟨stored, each⟩ := heldBy_group.mp held
    cases limit with
    | zero => simp [size, Stop.id?] at enough
    | succ limit =>
      have inner (member : Tree) (present : member ∈ members) :
          Meets (Query.renderToken hostKey (query.renderFrom hostKey limit) member.token)
            (member.render hostKey) (member.idsFrom (some id)) := by
        have smaller := size_lt_of_mem parent id connective present
        exact ih member present (each member present) (by omega)
      rw [render_group, idsFrom_group]
      -- a group is rendered itself, and then what is rendered for its members
      cases members with
      | nil =>
        refine ⟨[id], List.prefix_rfl, fun _ => rfl, fun met => ?_⟩
        rw [token, Query.renderToken, Query.renderFrom, stored]
        cases connective <;> rfl
      | cons first others =>
        cases others with
        | nil =>
          rw [List.map_singleton, join_single, List.flatMap_singleton]
          refine (inner first List.mem_cons_self).cons fun met => ?_
          rw [token, Query.renderToken, Query.renderFrom, stored]
          cases connective <;> rfl
        | cons second others =>
          cases connective with
          | none =>
            refine ⟨[id], List.prefix_append [id] _, (fun ok => by cases ok), fun met => ?_⟩
            rw [token, Query.renderToken, Query.renderFrom, stored]
            simp [join]
          | some connective =>
            have joins : join (some connective) ((first :: second :: others).map (render hostKey)) =
                (joinTexts connective ((first :: second :: others).map (render hostKey))).map
                  fun texts => some ("[" ++ Json.quote connective.text ++ texts ++ "]") := by
              rw [List.map_cons, List.map_cons, join_several]
              cases joinTexts connective _ <;> rfl
            rw [joins]
            refine ((meets_renderTokens hostKey connective inner).map _).cons fun met => ?_
            rw [token, Query.renderToken, Query.renderFrom, stored, Option.map_eq_bind]
            rfl

/-- What is below a group on a walk is met in one go. -/
theorem exists_below {parent : Option Nat} {id : Nat} {group : Group} (tree : Tree)
    (met : Stop.group id group ∈ tree.walk parent) :
    ∃ outer below, token below = .group id ∧ (below.walk outer).Sublist (tree.walk parent) := by
  induction tree generalizing parent with
  | term t => simp at met
  | group id' connective members ih =>
    rw [walk_group] at met ⊢
    rcases List.mem_cons.mp met with here | met
    · obtain ⟨rfl, _⟩ := Stop.group.inj here
      exact ⟨parent, .group id connective members, rfl, walk_group .. ▸ .refl _⟩
    · obtain ⟨member, present, met⟩ := List.mem_flatMap.mp met
      obtain ⟨outer, below, leads, inside⟩ := ih member present met
      refine ⟨outer, below, leads, inside.trans (.cons _ ?_)⟩
      rw [List.flatMap_def]
      exact List.sublist_flatten_of_mem (List.mem_map_of_mem present)

end Tree

namespace Outline.Describes

open InventoryQuery.Tree (Meets)

variable {outline : Outline} {query : Query} {limit : Nat}

/-- From every group of the arena a tree is rendered, which is a part of the whole one. -/
theorem exists_rendered (describes : outline.Describes query) (hostKey : String) {id : Nat}
    (inside : id < query.groups.size) (enough : query.groups.size ≤ limit) :
    ∃ below : Tree, ∃ ids : List Nat, query.renderGroup hostKey id = below.render hostKey ∧
      ids.Sublist (List.range query.groups.size) ∧
      Meets (query.renderFrom hostKey limit id) (below.render hostKey) ids := by
  have stored : query.group? id = some query.groups[id] := Array.getElem?_eq_getElem inside
  obtain ⟨outer, below, leads, part⟩ := outline.tree.exists_below (describes.mem_walk_iff.mpr stored)
  have held : below.HeldBy query outer := fun id group met =>
    describes.groups id group (part.mem met)
  have ids : (below.idsFrom outer).Sublist (List.range query.groups.size) :=
    describes.ids ▸ part.filterMap Tree.Stop.id?
  have small : below.size outer ≤ query.groups.size :=
    le_of_le_of_eq ids.length_le List.length_range
  have followed := below.follow_token held small
  have meets := below.meets_renderToken hostKey held (Nat.le_trans small enough)
  rw [leads] at followed meets
  refine ⟨below, _, ?_, ids, meets⟩
  rw [Query.renderGroup, show query.treeAt id = .ok below from followed]
  rfl

/-- From the root the whole tree is rendered. -/
theorem meets_render (describes : outline.Describes query) (hostKey : String)
    (enough : query.groups.size ≤ limit) :
    Meets (query.renderFrom hostKey limit 0) (query.render hostKey)
      (List.range query.groups.size) := by
  obtain ⟨connective, members, same⟩ := describes.tree_eq_group
  have ids : outline.tree.idsFrom none = List.range query.groups.size := describes.ids
  have small : outline.tree.size none ≤ limit :=
    le_of_eq_of_le ((congrArg List.length ids).trans List.length_range) enough
  have meets := outline.tree.meets_renderToken hostKey describes.heldBy small
  rw [ids, ← describes.render_eq, same] at meets
  exact meets

end Outline.Describes

/-- Whatever calls are made, the links of the arena lead one way, so that following them ends. The way
from the cursor to the root is as long as the groups that were opened outnumber those that were
closed, and this many can be closed before a call to close one is refused. Rendering from a group
ends with its outcome and renders no group twice and none that is not there; from the root it renders
the groups in the order of their ids, and all of them if there is no refusal. -/
theorem ofCalls_links_end (calls : List Call) :
    let query := Query.ofCalls calls
    query.Ordered ∧
      ((∀ limit > query.depth, query.climb? limit query.cursor = some query.depth) ∧
        query.depth + (acceptedCalls calls (Query.empty.run calls).1).count .closeGroup =
          calls.count .openGroup ∧
        (query.atRoot = true ↔ query.depth = 0) ∧
        (query.run (List.replicate (query.depth + 1) .closeGroup)).1 =
          List.replicate query.depth (.ok none) ++ [.error .noOpenGroup]) ∧
      ∀ hostKey, ∀ limit ≥ query.groups.size,
        (∀ id < query.groups.size, ∃ met,
          query.renderFrom hostKey limit id [] = some (query.renderGroup hostKey id, met) ∧
            met.Nodup ∧ (∀ rendered ∈ met, rendered < query.groups.size) ∧
            ∀ unknown, query.renderGroup hostKey id ≠ .error (.unknownGroup unknown)) ∧
        ∃ met, query.renderFrom hostKey limit 0 [] = some (query.render hostKey, met) ∧
          met <+: List.range query.groups.size ∧
          ((query.render hostKey).isOk = true → met = List.range query.groups.size) := by
  intro query
  have describes := Outline.describes_ofCalls calls
  have ordered : query.Ordered := Query.ordered_empty.run calls
  have depth := describes.depth_eq ordered
  refine ⟨ordered, ⟨fun limit below => ?_, ?_, ?_, ?_⟩,
    fun hostKey limit enough => ⟨fun id inside => ?_, ?_⟩⟩
  · rw [depth] at below ⊢
    exact describes.climb?_cursor below
  · rw [depth]
    exact (Outline.describes_empty.length_around_run calls).trans (Nat.zero_add _)
  · rw [describes.atRoot_iff, depth, List.length_eq_zero_iff]
  · rw [depth]
    exact describes.answers_closeGroup
  · obtain ⟨below, ids, rendered, part, visited, front, _, ends⟩ :=
      describes.exists_rendered hostKey inside enough
    rw [rendered]
    refine ⟨visited, ends [], ?_, fun id met => ?_, fun unknown refused => ?_⟩
    · exact (front.sublist.trans part).nodup List.nodup_range
    · exact List.mem_range.mp (part.mem (front.mem met))
    · cases below.render_refusal hostKey refused
  · obtain ⟨visited, front, full, ends⟩ := describes.meets_render hostKey enough
    exact ⟨visited, ends [], front, full⟩

end InventoryQuery
