import InventoryQuery.Proofs.Query.Movement
/-! # Groups that are closed stay as they are

Calls only add to a query (`Query.Extends`), and they add to no group beside the way from the root to
the cursor: the cursor leaves this way only for groups that are opened later
(`Query.Move.onPath`).
-/

namespace InventoryQuery

/-- What becomes of a group: it keeps its parent, its tokens and a declared connective. -/
structure Group.Grows (group later : Group) : Prop where
  parent : later.parent = group.parent
  tokens : group.tokens <+: later.tokens
  connective : ∀ declared, group.connective = some declared → later.connective = some declared

namespace Group

variable {group later last : Group}

theorem Grows.refl (group : Group) : group.Grows group :=
  ⟨rfl, List.prefix_rfl, fun _ declares => declares⟩

theorem Grows.trans (first : group.Grows later) (second : later.Grows last) : group.Grows last :=
  ⟨second.parent.trans first.parent, first.tokens.trans second.tokens,
    fun declared declares => second.connective declared (first.connective declared declares)⟩

theorem Change.grows (change : group.Change later) : group.Grows later := by
  cases change with
  | same => exact .refl group
  | token token => exact ⟨rfl, List.prefix_append _ _, fun _ declares => declares⟩
  | connective connective undeclared =>
    refine ⟨rfl, List.prefix_rfl, fun declared declares => ?_⟩
    rw [undeclared] at declares
    cases declares

/-- A change adds at most one token. -/
theorem Change.exists_added (change : group.Change later) :
    ∃ added, later.tokens = group.tokens ++ added ∧ added.length ≤ 1 := by
  cases change with
  | same => exact ⟨[], (List.append_nil _).symm, Nat.zero_le 1⟩
  | token token => exact ⟨[token], rfl, Nat.le_refl 1⟩
  | connective => exact ⟨[], (List.append_nil _).symm, Nat.zero_le 1⟩

end Group

namespace Query

variable {query next later last : Query} {call : Call}

/-- The groups on the way between the root and the cursor, both included. -/
inductive OnPath (query : Query) : Nat → Prop
  | cursor : OnPath query query.cursor
  | around {id outer : Nat} {group : Group} (inside : OnPath query id)
      (stored : query.group? id = some group) (parent : group.parent = some outer) :
      OnPath query outer

/-- What becomes of a query: every group grows, a group beside the way to the cursor stays as it is,
and the way leads through no other groups than before and new ones. -/
structure Extends (query later : Query) : Prop where
  groups : ∀ id group, query.group? id = some group → ∃ grown, later.group? id = some grown ∧
    group.Grows grown ∧ (¬query.OnPath id → grown = group)
  category : ∀ fixed, query.category = some fixed → later.category = some fixed
  path : ∀ id < query.groups.size, later.OnPath id → query.OnPath id

theorem Extends.refl (query : Query) : query.Extends query :=
  ⟨fun _ group stored => ⟨group, stored, .refl group, fun _ => rfl⟩, fun _ fixed => fixed,
    fun _ _ path => path⟩

theorem Extends.size_le (grown : query.Extends later) :
    query.groups.size ≤ later.groups.size := by
  refine Nat.le_of_not_lt fun shrunk => ?_
  obtain ⟨_, stored, _⟩ := grown.groups later.groups.size _ (Array.getElem?_eq_getElem shrunk)
  exact Nat.lt_irrefl _ (lt_size_of_group? stored)

theorem Extends.trans (first : query.Extends later) (second : later.Extends last) :
    query.Extends last := by
  refine ⟨fun id group stored => ?_, fun fixed known => ?_, fun id inside path => ?_⟩
  · obtain ⟨between, stored', grows, frozen⟩ := first.groups id group stored
    obtain ⟨final, stored'', grows', frozen'⟩ := second.groups id between stored'
    refine ⟨final, stored'', grows.trans grows', fun beside => ?_⟩
    have beside' : ¬later.OnPath id :=
      fun path => beside (first.path id (lt_size_of_group? stored) path)
    rw [frozen' beside', frozen beside]
  · exact second.category fixed (first.category fixed known)
  · exact first.path id inside
      (second.path id (Nat.lt_of_lt_of_le inside first.size_le) path)

/-- The cursor moves along the way to it, or into a new group. -/
theorem Move.onPath (move : query.Move call next) {id : Nat} (inside : id < query.groups.size)
    (path : next.OnPath id) : query.OnPath id := by
  induction path with
  | cursor =>
    rcases move.cursor with stays | opened | ⟨group, stored, parent⟩
    · rw [stays]
      exact .cursor
    · rw [opened] at inside
      exact absurd inside (Nat.lt_irrefl _)
    · exact .around .cursor stored parent
  | @around id outer group _ stored parent ih =>
    cases before : query.group? id with
    | none =>
      -- only the opened group is new, and around it is the group under the cursor
      obtain ⟨_, _, rfl⟩ := move.eq_opened before stored
      cases parent
      exact .cursor
    | some old =>
      obtain ⟨changed, stored', change, _⟩ := move.exists_change before
      obtain rfl := Option.some.inj (stored.symm.trans stored')
      rw [change.grows.parent] at parent
      exact .around (ih (lt_size_of_group? before)) before parent

theorem Move.extends (move : query.Move call next) : query.Extends next := by
  refine ⟨fun id group stored => ?_, fun _ => move.category, fun _ inside => move.onPath inside⟩
  obtain ⟨changed, stored', change, elsewhere⟩ := move.exists_change stored
  refine ⟨changed, stored', change.grows, fun beside => elsewhere ?_⟩
  rintro rfl
  exact beside .cursor

theorem extends_run (query : Query) (calls : List Call) : query.Extends (query.run calls).2 := by
  induction calls generalizing query with
  | nil => exact .refl query
  | cons call calls ih => exact (query.perform_move call).extends.trans (ih _)

/-- Whatever calls follow: every group stays, with its parent, its tokens in front of the new ones
and its connective once declared; so does the category once fixed; and a group that is not on the way
from the root to the cursor does not change at all. One call adds at most one token, to the group
under the cursor, and a group only if it opens one, which is empty. -/
theorem run_keeps_closed_groups (query : Query) (calls : List Call) :
    (∀ id group, query.group? id = some group →
      ∃ later, (query.run calls).2.group? id = some later ∧ later.parent = group.parent ∧
        group.tokens <+: later.tokens ∧
        (∀ declared, group.connective = some declared → later.connective = some declared) ∧
        (¬query.OnPath id → later = group)) ∧
      (∀ fixed, query.category = some fixed → (query.run calls).2.category = some fixed) ∧
      ∀ call, let next := (query.perform call).2
        (∀ id group, query.group? id = some group →
          ∃ later added, next.group? id = some later ∧ later.tokens = group.tokens ++ added ∧
            added.length ≤ 1 ∧ (id ≠ query.cursor → later = group)) ∧
        next.groups.size = query.groups.size + (if call = .openGroup then 1 else 0) ∧
        ∀ id later, query.group? id = none → next.group? id = some later →
          later = { parent := some query.cursor } := by
  refine ⟨fun id group stored => ?_, (query.extends_run calls).category, fun call => ?_⟩
  · obtain ⟨later, stored', grows, frozen⟩ := (query.extends_run calls).groups id group stored
    exact ⟨later, stored', grows.parent, grows.tokens, grows.connective, frozen⟩
  · have move := query.perform_move call
    refine ⟨fun id group stored => ?_, move.size, fun id later absent stored =>
      (move.eq_opened absent stored).2.2⟩
    obtain ⟨later, stored', change, elsewhere⟩ := move.exists_change stored
    obtain ⟨added, tokens, few⟩ := change.exists_added
    exact ⟨later, added, stored', tokens, few, elsewhere⟩

end Query

end InventoryQuery
