import InventoryQuery.Proofs.Query.Movement
import InventoryQuery.Proofs.Query.Simulation
/-! # Declarations at any time

The connective of a group is read by one call only, the declaration of a connective on this very
group. So every other call does the same whether the group has its connective already or gets it
later (`Query.perform_withConnective`), and a declaration can be made before or after calls that
come back to the group.
-/

namespace InventoryQuery.Query

variable {query next : Query} {call : Call} {calls : List Call} {id : Nat}
  {connective : Connective}

/-- The query in which a group has a connective. -/
def withConnective (query : Query) (id : Nat) (connective : Connective) : Query :=
  { query with
    groups := query.groups.modify id fun group => { group with connective := some connective } }

/-- The calls of a run, each with the group under the cursor when it is made. -/
def sites (query : Query) : List Call → List (Nat × Call)
  | [] => []
  | call :: calls => (query.cursor, call) :: (query.perform call).2.sites calls

section Change

theorem group?_withConnective (query : Query) (id : Nat) (connective : Connective) (other : Nat) :
    (query.withConnective id connective).group? other =
      if id = other then
        (query.group? other).map fun group => { group with connective := some connective }
      else query.group? other := by
  rw [group?, group?, withConnective, Array.getElem?_modify]

theorem size_withConnective (query : Query) (id : Nat) (connective : Connective) :
    (query.withConnective id connective).groups.size = query.groups.size :=
  Array.size_modify

theorem parent_withConnective (query : Query) (id : Nat) (connective : Connective) :
    (query.withConnective id connective).current.parent = query.current.parent := by
  have found := group?_withConnective query id connective query.cursor
  change (Option.getD ((query.withConnective id connective).group? query.cursor) {}).parent =
    (Option.getD (query.group? query.cursor) {}).parent
  rw [found]
  split
  · cases query.group? query.cursor <;> rfl
  · rfl

theorem connective_withConnective (elsewhere : query.cursor ≠ id) :
    (query.withConnective id connective).current.connective = query.current.connective := by
  have found := group?_withConnective query id connective query.cursor
  rw [if_neg (Ne.symm elsewhere)] at found
  exact congrArg (fun group => (Option.getD group {}).connective) found

/-- Changes of two groups, or of one in parts that have nothing to do with each other, can be made
in either order. -/
theorem updateCurrent_withConnective {change : Group → Group}
    (apart : query.cursor = id → ∀ group : Group,
      change { group with connective := some connective } =
        { change group with connective := some connective }) :
    (query.withConnective id connective).updateCurrent change =
      (query.updateCurrent change).withConnective id connective := by
  have groups : ((query.withConnective id connective).updateCurrent change).groups =
      ((query.updateCurrent change).withConnective id connective).groups := by
    refine Array.ext_getElem? fun other => ?_
    have left := group?_updateCurrent (query.withConnective id connective) change other
    have right := group?_withConnective (query.updateCurrent change) id connective other
    rw [group?_withConnective] at left
    rw [group?_updateCurrent] at right
    refine left.trans (Eq.trans ?_ right.symm)
    change (if query.cursor = other then _ else _) = _
    by_cases here : query.cursor = other
    · by_cases there : id = other
      · subst there
        cases query.group? id with
        | none => simp [here]
        | some group => simp [here, apart here]
      · simp [here, there]
    · simp [here]
  exact congrArg (fun groups => ({ query with groups } : Query)) groups

theorem withOpened_withConnective (inside : id < query.groups.size) :
    (query.withConnective id connective).withOpened =
      query.withOpened.withConnective id connective := by
  have updated : (query.withConnective id connective).updateCurrent
        (·.add (.group query.groups.size)) =
      (query.updateCurrent (·.add (.group query.groups.size))).withConnective id connective :=
    updateCurrent_withConnective fun _ _ => rfl
  have groups : (query.withConnective id connective).withOpened.groups =
      (query.withOpened.withConnective id connective).groups := by
    refine Array.ext_getElem? fun other => ?_
    have left := group?_withOpened (query.withConnective id connective) other
    have right := group?_withConnective query.withOpened id connective other
    rw [size_withConnective, updated, group?_withConnective] at left
    rw [group?_withOpened] at right
    refine left.trans (Eq.trans ?_ right.symm)
    by_cases opened : other = query.groups.size
    · rw [if_pos opened, if_neg (by omega), if_pos opened]
      rfl
    · rw [if_neg opened, if_neg opened]
  have cursor : (query.withConnective id connective).withOpened.cursor = query.groups.size :=
    size_withConnective query id connective
  rw [withOpened] at cursor groups ⊢
  dsimp only at cursor groups ⊢
  rw [groups, cursor]
  rfl

end Change

section Calls

theorem perform_declare (query : Query) (connective : Connective) :
    query.perform (.declare connective) =
      match query.current.connective with
      | none => (.ok none, query.withConnective query.cursor connective)
      | some declared =>
        if declared = connective then (.ok none, query)
        else (.error (.connectiveConflict declared connective), query) := by
  rw [perform, Call.builder]
  simp only [bind, EStateM.bind, Builder.declare]
  cases query.current.connective with
  | none => rfl
  | some declared =>
    by_cases same : declared = connective
    · simp only [same, if_true]
      rfl
    · simp only [same, if_false]

/-- Fixing a category has nothing to do with connectives. -/
theorem setCategory_withConnective (query : Query) (id : Nat) (connective : Connective)
    (category : Category) :
    Builder.setCategory category (query.withConnective id connective) =
      match Builder.setCategory category query with
      | .ok told next => .ok told (next.withConnective id connective)
      | .error refusal next => .error refusal (next.withConnective id connective) := by
  obtain ⟨groups, cursor, fixed⟩ := query
  cases fixed with
  | none => rfl
  | some current =>
    simp only [Builder.setCategory, withConnective]
    split <;> rfl

theorem push_withConnective (query : Query) (id : Nat) (connective : Connective) (token : Token) :
    (query.withConnective id connective).updateCurrent (·.add token) =
      (query.updateCurrent (·.add token)).withConnective id connective :=
  updateCurrent_withConnective fun _ _ => rfl

/-- Every call but a declaration on this group does the same when the group has a connective. -/
theorem perform_withConnective (inside : id < query.groups.size)
    (elsewhere : ∀ other, (query.cursor, call) ≠ (id, .declare other)) :
    (query.withConnective id connective).perform call =
      ((query.perform call).1, (query.perform call).2.withConnective id connective) := by
  cases call with
  | setCategory category =>
    simp only [perform, Call.builder, bind, EStateM.bind, setCategory_withConnective]
    cases Builder.setCategory category query <;> rfl
  | addCondition category key value comparison negated =>
    simp only [perform, Call.builder, Builder.addCondition]
    cases Builder.condition category key value comparison with
    | error refusal => rfl
    | ok term =>
      simp only [bind, EStateM.bind, setCategory_withConnective]
      cases Builder.setCategory category query with
      | error refusal next => rfl
      | ok told next => exact congrArg (Prod.mk _) (push_withConnective next id connective _)
  | addHosts hosts negated =>
    simp only [perform, Call.builder, Builder.addHosts]
    cases HostPattern.anyOf? hosts negated with
    | none => rfl
    | some term => exact congrArg (Prod.mk _) (push_withConnective query id connective _)
  | openGroup =>
    have opened (query : Query) :
        query.perform .openGroup = (.ok (some query.groups.size), query.withOpened) := rfl
    rw [opened, opened, withOpened_withConnective inside, size_withConnective]
  | closeGroup =>
    simp only [perform, Call.builder, bind, EStateM.bind, Builder.closeGroup,
      parent_withConnective]
    cases query.current.parent <;> rfl
  | declare other =>
    have apart : query.cursor ≠ id := fun here => elsewhere other (by rw [here])
    rw [perform_declare, perform_declare, connective_withConnective apart]
    cases query.current.connective with
    | none => exact congrArg (Prod.mk _) (updateCurrent_withConnective fun here => absurd here apart)
    | some declared =>
      dsimp only
      split <;> rfl

/-- A declaration on a group is the only call that changes its connective. -/
theorem Move.keeps_connective (move : query.Move call next)
    (elsewhere : ∀ other, (query.cursor, call) ≠ (id, .declare other)) {group : Group}
    (stored : query.group? id = some group) :
    ∃ later, next.group? id = some later ∧ later.connective = group.connective := by
  by_cases here : id = query.cursor
  · subst here
    have pushed (token : Token) : ∃ later,
        (query.updateCurrent (·.add token)).group? query.cursor = some later ∧
          later.connective = group.connective := by
      rw [group?_updateCurrent, if_pos rfl, stored]
      exact ⟨_, rfl, rfl⟩
    cases move with
    | stay other kept => exact ⟨group, stored, rfl⟩
    | term other term kept => exact pushed (.term term)
    | declared undeclared => exact absurd rfl (elsewhere _)
    | opened =>
      rw [group?_withOpened, if_neg (Nat.ne_of_lt (lt_size_of_group? stored))]
      exact pushed _
    | closed around => exact ⟨group, stored, rfl⟩
  · obtain ⟨later, stored', _, same⟩ := move.exists_change stored
    exact ⟨later, stored', congrArg Group.connective (same here)⟩

end Calls

section Runs

theorem run_withConnective (undeclared : ∀ other, (id, .declare other) ∉ query.sites calls)
    (inside : id < query.groups.size) (connective : Connective) :
    (query.withConnective id connective).run calls =
      ((query.run calls).1, (query.run calls).2.withConnective id connective) := by
  induction calls generalizing query with
  | nil => rfl
  | cons call calls ih =>
    simp only [sites, List.mem_cons, not_or] at undeclared
    have inside' := Nat.lt_of_lt_of_le inside ((query.perform_move call).size ▸ Nat.le_add_right _ _)
    rw [run_cons, run_cons, perform_withConnective inside fun other same =>
      (undeclared other).1 same.symm, ih (fun other => (undeclared other).2) inside']

theorem connective_run (undeclared : ∀ other, (id, .declare other) ∉ query.sites calls)
    {group : Group} (stored : query.group? id = some group) :
    ∃ later, (query.run calls).2.group? id = some later ∧
      later.connective = group.connective := by
  induction calls generalizing query group with
  | nil => exact ⟨group, stored, rfl⟩
  | cons call calls ih =>
    simp only [sites, List.mem_cons, not_or] at undeclared
    obtain ⟨between, stored', same⟩ := (query.perform_move call).keeps_connective
      (fun other same => (undeclared other).1 same.symm) stored
    obtain ⟨later, stored'', same'⟩ := ih (fun other => (undeclared other).2) stored'
    exact ⟨later, stored'', same'.trans same⟩

/-- Calls that come back to a group and declare nothing on it meet the same answer to a declaration
before and behind them, and do the same behind it. -/
theorem run_perform_declare {group : Group} (stored : query.group? query.cursor = some group)
    (undeclared : ∀ other, (query.cursor, .declare other) ∉ query.sites calls)
    (returns : (query.run calls).2.cursor = query.cursor) (connective : Connective) :
    ((query.run calls).2.perform (.declare connective)).1 =
        (query.perform (.declare connective)).1 ∧
      (query.perform (.declare connective)).2.run calls =
        ((query.run calls).1, ((query.run calls).2.perform (.declare connective)).2) := by
  obtain ⟨later, stored', same⟩ := connective_run undeclared stored
  rw [← returns] at stored'
  have known : (query.run calls).2.current.connective = query.current.connective := by
    rw [current_eq stored, current_eq stored', same]
  rw [perform_declare, perform_declare, known, returns]
  cases query.current.connective with
  | none =>
    exact ⟨rfl, run_withConnective undeclared (lt_size_of_group? stored) connective⟩
  | some declared =>
    dsimp only
    split <;> exact ⟨rfl, rfl⟩

end Runs

/-- A connective can be declared before any calls or after them, if the calls come back to the group
under the cursor and declare no connective on it: the declaration gets the same answer, so do the
calls, and the same query is left behind. What the calls declare on other groups, and whether some of
them are refused, makes no difference. -/
theorem declaration_commutes (history calls : List Call) (connective : Connective)
    (returns : ((ofCalls history).run calls).2.cursor = (ofCalls history).cursor)
    (undeclared : ∀ other,
      ((ofCalls history).cursor, .declare other) ∉ (ofCalls history).sites calls) :
    ∃ answer answers last,
      (ofCalls history).run (.declare connective :: calls) = (answer :: answers, last) ∧
        (ofCalls history).run (calls ++ [.declare connective]) = (answers ++ [answer], last) ∧
        ((ofCalls history).run calls).1 = answers := by
  have stored := (Outline.describes_ofCalls history).group?_cursor
  obtain ⟨answered, ran⟩ := run_perform_declare stored undeclared returns connective
  refine ⟨_, _, _, run_cons _ _ _, ?_, ?_⟩
  · rw [run_append, run_cons, answered, ran]
    rfl
  · rw [ran]

/-- Calls that open a subgroup and declare the other connective on it, on an open subgroup. -/
theorem declaration_commutes_nested :
    let query := ofCalls [.addHosts ["db1"] false, .openGroup]
    let calls : List Call := [.addHosts ["web*"] true, .openGroup, .addFact "os" "Debian",
      .declare .or, .closeGroup]
    (query.run calls).2.cursor = query.cursor ∧
      (∀ other, (query.cursor, .declare other) ∉ query.sites calls) ∧
      ∃ answer answers last,
        query.run (.declare .and :: calls) = (answer :: answers, last) ∧
          query.run (calls ++ [.declare .and]) = (answers ++ [answer], last) ∧
          (query.run calls).1 = answers := by
  intro query calls
  have returns : (query.run calls).2.cursor = query.cursor := by rfl
  have undeclared : ∀ other, (query.cursor, .declare other) ∉ query.sites calls := by
    intro other
    cases other <;> decide
  exact ⟨returns, undeclared, declaration_commutes _ _ .and returns undeclared⟩

end InventoryQuery.Query
