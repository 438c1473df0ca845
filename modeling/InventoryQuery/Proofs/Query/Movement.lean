import InventoryQuery.Query.Call
/-! # What a call does to the arena

`Query.Move` tells everything that a call can leave behind of a query, reachable or not, and whether
the call is refused or not: the group under the cursor gets a token or a connective, a group is
added behind the others, or the cursor moves. What else a call does or keeps is read off these rules.
-/

namespace InventoryQuery

/-- A group with one more token. -/
def Group.add (group : Group) (token : Token) : Group :=
  { group with tokens := group.tokens ++ [token] }

/-- What a call does to a group at most: one more token, or a connective where there was none. -/
inductive Group.Change (group : Group) : Group → Prop
  | same : Change group group
  | token (token : Token) : Change group (group.add token)
  | connective (connective : Connective) (undeclared : group.connective = none) :
      Change group { group with connective := some connective }

namespace Query

variable {query next : Query} {call : Call}

theorem group?_updateCurrent (query : Query) (change : Group → Group) (id : Nat) :
    (query.updateCurrent change).group? id =
      if query.cursor = id then (query.group? id).map change else query.group? id := by
  rw [group?, group?, updateCurrent, Array.getElem?_modify]

theorem size_updateCurrent (query : Query) (change : Group → Group) :
    (query.updateCurrent change).groups.size = query.groups.size :=
  Array.size_modify

theorem lt_size_of_group? {id : Nat} {group : Group} (stored : query.group? id = some group) :
    id < query.groups.size :=
  (Array.getElem?_eq_some_iff.mp stored).1

theorem current_eq {group : Group} (stored : query.group? query.cursor = some group) :
    query.current = group := by
  rw [current, stored, Option.getD_some]

/-- A query with a new group in the group under the cursor, and the cursor on it. -/
def withOpened (query : Query) : Query :=
  { query with
    groups := (query.updateCurrent (·.add (.group query.groups.size))).groups.push
      { parent := some query.cursor }
    cursor := query.groups.size }

theorem group?_withOpened (query : Query) (id : Nat) :
    query.withOpened.group? id =
      if id = query.groups.size then some { parent := some query.cursor }
      else (query.updateCurrent (·.add (.group query.groups.size))).group? id := by
  rw [group?, withOpened, Array.getElem?_push, size_updateCurrent]
  rfl

/-- Everything that a call can leave behind. A refused call and one that has nothing to do leave the
query as it is. -/
inductive Move (query : Query) : Call → Query → Prop
  | stay {call : Call} {category : Option Category} (other : call ≠ .openGroup)
      (kept : ∀ fixed, query.category = some fixed → category = some fixed) :
      Move query call { query with category }
  | term {call : Call} {category : Option Category} (other : call ≠ .openGroup) (term : Term)
      (kept : ∀ fixed, query.category = some fixed → category = some fixed) :
      Move query call { query.updateCurrent (·.add (.term term)) with category }
  | declared {connective : Connective} (undeclared : query.current.connective = none) :
      Move query (.declare connective)
        (query.updateCurrent fun group => { group with connective := some connective })
  | opened : Move query .openGroup query.withOpened
  | closed {parent : Nat} (around : query.current.parent = some parent) :
      Move query .closeGroup { query with cursor := parent }

theorem Move.same (query : Query) (other : call ≠ .openGroup) : query.Move call query :=
  .stay other fun _ fixed => fixed

/-- Fixing a category changes nothing else, and no category that is fixed. -/
theorem setCategory_cases (query : Query) (category : Category) :
    (∃ refusal, Builder.setCategory category query = .error refusal query) ∨
      Builder.setCategory category query = .ok () { query with category := some category } ∧
        ∀ fixed, query.category = some fixed → some category = some fixed := by
  obtain ⟨groups, cursor, fixed⟩ := query
  cases fixed with
  | none => exact .inr ⟨rfl, by simp⟩
  | some known =>
    rw [Builder.setCategory]
    by_cases same : known = category
    · subst same
      exact .inr ⟨if_pos rfl, fun _ fixed => fixed⟩
    · exact .inl ⟨_, if_neg same⟩

theorem perform_move (query : Query) (call : Call) : query.Move call (query.perform call).2 := by
  cases call with
  | setCategory category =>
    rw [perform, Call.builder]
    rcases query.setCategory_cases category with ⟨refusal, ran⟩ | ⟨ran, kept⟩
    · simp only [bind, EStateM.bind, ran]
      exact .same query nofun
    · simp only [bind, EStateM.bind, ran]
      exact .stay nofun kept
  | addCondition category key value comparison negated =>
    have other : Call.addCondition category key value comparison negated ≠ .openGroup := nofun
    rw [perform, Call.builder, Builder.addCondition]
    cases Builder.condition category key value comparison with
    | error refusal => exact .same query nofun
    | ok term =>
      rcases query.setCategory_cases category with ⟨refusal, ran⟩ | ⟨ran, kept⟩
      · simp only [bind, EStateM.bind, ran]
        exact .same query nofun
      · simp only [bind, EStateM.bind, ran]
        exact .term other _ kept
  | addHosts hosts negated =>
    have other : Call.addHosts hosts negated ≠ .openGroup := nofun
    rw [perform, Call.builder, Builder.addHosts]
    cases HostPattern.anyOf? hosts negated with
    | none => exact .same query nofun
    | some term => exact .term other term fun _ fixed => fixed
  | openGroup => exact .opened
  | closeGroup =>
    rw [perform, Call.builder]
    simp only [bind, EStateM.bind, Builder.closeGroup]
    cases around : query.current.parent with
    | none => exact .same query nofun
    | some parent => exact .closed around
  | declare connective =>
    rw [perform, Call.builder]
    simp only [bind, EStateM.bind, Builder.declare]
    cases known : query.current.connective with
    | none => exact .declared known
    | some declared =>
      by_cases same : declared = connective
      · simp only [same, if_true]
        exact .same query nofun
      · simp only [same, if_false]
        exact .same query nofun

section Moves

variable {id : Nat} {group later : Group}

theorem exists_change_updateCurrent {change : Group → Group}
    (changes : ∀ group, query.group? query.cursor = some group → group.Change (change group))
    (stored : query.group? id = some group) :
    ∃ later, (query.updateCurrent change).group? id = some later ∧ group.Change later ∧
      (id ≠ query.cursor → later = group) := by
  rw [group?_updateCurrent, stored]
  by_cases here : query.cursor = id
  · rw [if_pos here]
    exact ⟨_, rfl, changes group (here ▸ stored), fun elsewhere => absurd here.symm elsewhere⟩
  · rw [if_neg here]
    exact ⟨group, rfl, .same, fun _ => rfl⟩

/-- A group is found again after a call, and only the group under the cursor has changed. -/
theorem Move.exists_change (move : query.Move call next) (stored : query.group? id = some group) :
    ∃ later, next.group? id = some later ∧ group.Change later ∧
      (id ≠ query.cursor → later = group) := by
  cases move with
  | stay other kept => exact ⟨group, stored, .same, fun _ => rfl⟩
  | term other term kept =>
    exact exists_change_updateCurrent (fun group _ => .token (.term term)) stored
  | declared undeclared =>
    refine exists_change_updateCurrent (fun group stored => ?_) stored
    rw [current_eq stored] at undeclared
    exact .connective _ undeclared
  | opened =>
    rw [group?_withOpened, if_neg (Nat.ne_of_lt (lt_size_of_group? stored))]
    exact exists_change_updateCurrent (fun group _ => .token _) stored
  | closed around => exact ⟨group, stored, .same, fun _ => rfl⟩

/-- A group that was not there is an empty one, opened inside the group under the cursor. -/
theorem Move.eq_opened (move : query.Move call next) (absent : query.group? id = none)
    (stored : next.group? id = some later) :
    call = .openGroup ∧ id = query.groups.size ∧ later = { parent := some query.cursor } := by
  have unchanged (change : Group → Group) : (query.updateCurrent change).group? id = none := by
    rw [group?_updateCurrent, absent, Option.map_none, ite_self]
  cases move with
  | stay other kept => exact absurd (absent.symm.trans stored) (by simp)
  | term other term kept => exact absurd ((unchanged _).symm.trans stored) (by simp)
  | declared undeclared => exact absurd ((unchanged _).symm.trans stored) (by simp)
  | opened =>
    rw [group?_withOpened] at stored
    by_cases last : id = query.groups.size
    · rw [if_pos last] at stored
      exact ⟨rfl, last, (Option.some.inj stored).symm⟩
    · rw [if_neg last, unchanged] at stored
      cases stored
  | closed around => exact absurd (absent.symm.trans stored) (by simp)

/-- Only the call that opens a group adds one. -/
theorem Move.size (move : query.Move call next) :
    next.groups.size = query.groups.size + if call = .openGroup then 1 else 0 := by
  cases move with
  | stay other kept => rw [if_neg other, Nat.add_zero]
  | term other term kept => rw [if_neg other, Nat.add_zero, size_updateCurrent]
  | declared undeclared => exact size_updateCurrent query _
  | opened => rw [withOpened, Array.size_push, size_updateCurrent, if_pos rfl]
  | closed around => rfl

/-- The cursor stays, moves onto the opened group, or goes to the group around. -/
theorem Move.cursor (move : query.Move call next) :
    next.cursor = query.cursor ∨ next.cursor = query.groups.size ∨
      ∃ group, query.group? query.cursor = some group ∧ group.parent = some next.cursor := by
  cases move with
  | stay | term | declared => exact .inl rfl
  | opened => exact .inr (.inl rfl)
  | closed around =>
    cases stored : query.group? query.cursor with
    | none =>
      rw [current, stored] at around
      cases around
    | some group =>
      rw [current_eq stored] at around
      exact .inr (.inr ⟨group, rfl, around⟩)

theorem Move.category (move : query.Move call next) {fixed : Category}
    (known : query.category = some fixed) : next.category = some fixed := by
  cases move with
  | stay other kept => exact kept fixed known
  | term other term kept => exact kept fixed known
  | declared | opened | closed => exact known

end Moves

end Query

end InventoryQuery
