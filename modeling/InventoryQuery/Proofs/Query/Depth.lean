import InventoryQuery.Proofs.Query.Movement
import InventoryQuery.Proofs.Query.Refusal
/-! # The links of an arena lead one way

A group comes behind the group around it and in front of its subgroups, and no link leads out of the
arena (`Query.Ordered`). Every call keeps this order, so the way from the cursor to the root ends. Its
length is the number of groups that were opened less those that were closed.
-/

namespace InventoryQuery

namespace Query

variable {query next : Query} {call : Call}

/-- Links to the group around lead back in the arena, links to subgroups lead on in it, and the cursor
is on a group. -/
structure Ordered (query : Query) : Prop where
  cursor : query.cursor < query.groups.size
  parent : ∀ id group, query.group? id = some group →
    ∀ outer, group.parent = some outer → outer < id
  child : ∀ id group, query.group? id = some group →
    ∀ inner, .group inner ∈ group.tokens → id < inner ∧ inner < query.groups.size

theorem ordered_empty : empty.Ordered := by
  have alone {id : Nat} {group : Group} (stored : empty.group? id = some group) : group = {} := by
    cases id with
    | zero => exact (Option.some.inj stored).symm
    | succ id => cases stored
  refine ⟨Nat.one_pos, fun id group stored outer parent => ?_, fun id group stored inner held => ?_⟩
  · rw [alone stored] at parent
    cases parent
  · rw [alone stored] at held
    cases held

theorem exists_before_updateCurrent {change : Group → Group} {id : Nat} {group : Group}
    (stored : (query.updateCurrent change).group? id = some group) :
    ∃ before, query.group? id = some before ∧ (group = before ∨ group = change before) := by
  rw [group?_updateCurrent] at stored
  split at stored
  · obtain ⟨before, found, rfl⟩ := Option.map_eq_some_iff.mp stored
    exact ⟨before, found, .inr rfl⟩
  · exact ⟨group, stored, .inl rfl⟩

/-- A change of the group under the cursor that brings no links keeps the order. -/
theorem Ordered.updateCurrent (ordered : query.Ordered) (change : Group → Group)
    (parent : ∀ group, (change group).parent = group.parent)
    (child : ∀ group inner, .group inner ∈ (change group).tokens → .group inner ∈ group.tokens) :
    (query.updateCurrent change).Ordered := by
  refine ⟨?_, fun id group stored outer around => ?_, fun id group stored inner held => ?_⟩
  · rw [size_updateCurrent]
    exact ordered.cursor
  · obtain ⟨before, found, rfl | rfl⟩ := exists_before_updateCurrent stored
    · exact ordered.parent id _ found outer around
    · exact ordered.parent id before found outer (parent before ▸ around)
  · rw [size_updateCurrent]
    obtain ⟨before, found, rfl | rfl⟩ := exists_before_updateCurrent stored
    · exact ordered.child id _ found inner held
    · exact ordered.child id before found inner (child before inner held)

/-- The opened group comes last in the arena. -/
theorem Ordered.withOpened (ordered : query.Ordered) : query.withOpened.Ordered := by
  have size : query.withOpened.groups.size = query.groups.size + 1 := by
    rw [Query.withOpened, Array.size_push, size_updateCurrent]
  refine ⟨size ▸ Nat.lt_succ_self _, fun id group stored outer around => ?_,
    fun id group stored inner held => ?_⟩
  · rw [group?_withOpened] at stored
    split at stored
    · next last =>
      cases stored
      cases around
      exact last ▸ ordered.cursor
    · obtain ⟨before, found, rfl | rfl⟩ := exists_before_updateCurrent stored
      · exact ordered.parent id _ found outer around
      · exact ordered.parent id before found outer around
  · rw [size]
    rw [group?_withOpened] at stored
    split at stored
    · cases stored
      cases held
    · obtain ⟨before, found, same⟩ := exists_before_updateCurrent stored
      have old (held : Token.group inner ∈ before.tokens) :
          id < inner ∧ inner < query.groups.size + 1 := by
        obtain ⟨behind, inside⟩ := ordered.child id before found inner held
        exact ⟨behind, Nat.lt_succ_of_lt inside⟩
      rcases same with rfl | rfl
      · exact old held
      · rcases List.mem_append.mp held with held | held
        · exact old held
        · cases List.mem_singleton.mp held
          exact ⟨lt_size_of_group? found, Nat.lt_succ_self _⟩

theorem Ordered.move (ordered : query.Ordered) (move : query.Move call next) : next.Ordered := by
  cases move with
  | stay => exact ⟨ordered.cursor, ordered.parent, ordered.child⟩
  | term other term kept =>
    have changed := ordered.updateCurrent (·.add (.term term)) (fun _ => rfl)
      fun group inner held => by simpa [Group.add] using held
    exact ⟨changed.cursor, changed.parent, changed.child⟩
  | declared undeclared => exact ordered.updateCurrent _ (fun _ => rfl) fun _ _ held => held
  | opened => exact ordered.withOpened
  | @closed parent around =>
    have stored := Array.getElem?_eq_getElem ordered.cursor
    rw [current_eq stored] at around
    have before := ordered.parent _ _ stored parent around
    exact ⟨Nat.lt_trans before ordered.cursor, ordered.parent, ordered.child⟩

theorem Ordered.run (ordered : query.Ordered) (calls : List Call) :
    (query.run calls).2.Ordered := by
  induction calls generalizing query with
  | nil => exact ordered
  | cons call calls ih => exact ih (ordered.move (query.perform_move call))

/-- The number of groups around a group, counted on the way to the root. There is none if the way has
more groups than the limit, or leads out of the arena. -/
def climb? (query : Query) : (limit id : Nat) → Option Nat
  | 0, _ => none
  | limit + 1, id => do
    let group ← query.group? id
    match group.parent with
    | none => return 0
    | some outer => return (← query.climb? limit outer) + 1

/-- Where links to the group around lead back, the way to the root ends. -/
theorem Ordered.climb?_eq (ordered : query.Ordered) {limit id fuel : Nat}
    (inside : id < query.groups.size) (below : id < limit) (enough : id < fuel) :
    query.climb? limit id = some (query.depthAt fuel id) := by
  induction fuel generalizing limit id with
  | zero => exact absurd enough (Nat.not_lt_zero id)
  | succ fuel ih =>
    obtain ⟨limit, rfl⟩ := Nat.exists_eq_succ_of_ne_zero (Nat.ne_zero_of_lt below)
    have stored : query.group? id = some query.groups[id] := Array.getElem?_eq_getElem inside
    rw [climb?, depthAt, stored]
    simp only [Option.bind_some, bind]
    cases around : query.groups[id].parent with
    | none => rfl
    | some outer =>
      have before := ordered.parent id _ stored outer around
      have above := ih (Nat.lt_trans before inside) (show outer < limit by omega)
        (show outer < fuel by omega)
      simp only [above]
      rfl

end Query

namespace Outline

open InventoryQuery.Tree (Stop)

variable {outline : Outline} {query : Query}

/-- Every open group is met before the cursor's, with the next one around it as its parent. -/
theorem exists_mem_before (last : Token) (front : List Frame) (frame : Frame)
    (frames : List Frame) :
    ∃ group, Stop.group frame.id group ∈ before last (front ++ frame :: frames) ∧
      group.parent = innermost? frames := by
  induction front generalizing last with
  | nil => exact ⟨_, List.mem_append_right _ List.mem_cons_self, rfl⟩
  | cons inner front ih =>
    obtain ⟨group, met, parent⟩ := ih (.group inner.id)
    exact ⟨group, List.mem_append_left _ met, parent⟩

/-- The way to the root leads through the open groups, from the inside out. -/
theorem Describes.climb?_of_parent (describes : outline.Describes query) (front : List Frame)
    {frames : List Frame} (around : outline.around = front ++ frames) {limit id : Nat}
    {group : Group} (stored : query.group? id = some group)
    (parent : group.parent = innermost? frames) (below : frames.length < limit) :
    query.climb? limit id = some frames.length := by
  obtain ⟨limit, rfl⟩ := Nat.exists_eq_succ_of_ne_zero (Nat.ne_zero_of_lt below)
  induction frames generalizing front limit id group with
  | nil =>
    rw [Query.climb?, stored]
    simp only [Option.bind_some, bind, show group.parent = none from parent]
    rfl
  | cons frame frames ih =>
    obtain ⟨outer, met, parent'⟩ :=
      exists_mem_before (.group outline.current.id) front frame frames
    have stored' : query.group? frame.id = some outer := by
      apply describes.groups
      rw [walk_tree, around]
      exact List.mem_append_left _ met
    obtain ⟨limit, rfl⟩ := Nat.exists_eq_succ_of_ne_zero
      (Nat.ne_zero_of_lt (Nat.lt_of_succ_lt_succ below))
    have above := ih (front ++ [frame]) (by simp [around]) stored' parent' limit
      (Nat.lt_of_succ_lt_succ below)
    rw [Query.climb?, stored]
    simp only [Option.bind_some, bind, show group.parent = some frame.id from parent, above]
    rfl

theorem Describes.climb?_cursor (describes : outline.Describes query) {limit : Nat}
    (below : outline.around.length < limit) :
    query.climb? limit query.cursor = some outline.around.length :=
  describes.climb?_of_parent [] rfl describes.group?_cursor rfl below

theorem Describes.depth_eq (describes : outline.Describes query) (ordered : query.Ordered) :
    query.depth = outline.around.length := by
  have counted := ordered.climb?_eq ordered.cursor
    (show query.cursor < query.cursor + outline.around.length + 1 by omega) ordered.cursor
  exact Option.some.inj (counted.symm.trans (describes.climb?_cursor (by omega)))

theorem length_around_of_step {next : Outline} {call : Call}
    (stepped : outline.step call = .ok next) :
    next.around.length + [call].count .closeGroup =
      outline.around.length + [call].count .openGroup := by
  cases step_eq_ok_iff.mp stepped with
  | category | condition | noHosts | hosts | declared => rfl
  | opened => rfl
  | closed around => rw [around]; rfl

/-- The number of open groups grows with the groups that are opened and shrinks with those that are
closed, and with nothing else. -/
theorem Describes.length_around_run (describes : outline.Describes query) (calls : List Call) :
    (outline.run calls).around.length +
        (acceptedCalls calls (query.run calls).1).count .closeGroup =
      outline.around.length + calls.count .openGroup := by
  induction calls generalizing outline query with
  | nil => rfl
  | cons call calls ih =>
    have rest := ih (describes.perform call)
    rw [show outline.run (call :: calls) = (outline.perform call).run calls from rfl,
      Query.run_cons]
    cases stepped : outline.step call with
    | error refusal =>
      have notOpen : call ≠ .openGroup := by
        rintro rfl
        cases stepped
      rw [Outline.perform, stepped] at rest ⊢
      rw [describes.perform_of_error stepped] at rest ⊢
      rw [acceptedCalls_error, List.count_cons_of_ne notOpen]
      exact rest
    | ok next =>
      have step := length_around_of_step stepped
      rw [Outline.perform, stepped] at rest ⊢
      have split (kind : Call) (others : List Call) :
          (call :: others).count kind = [call].count kind + others.count kind := by
        rw [← List.singleton_append, List.count_append]
      rw [(describes.perform_of_ok stepped).1, acceptedCalls_ok, split _ (acceptedCalls _ _),
        split _ calls]
      simp only [Except.toOption, Option.getD_some] at rest ⊢
      omega

/-- As many groups can be closed as are open, and then no more. -/
theorem Describes.answers_closeGroup (describes : outline.Describes query) :
    (query.run (List.replicate (outline.around.length + 1) .closeGroup)).1 =
      List.replicate outline.around.length (.ok none) ++ [.error .noOpenGroup] := by
  obtain ⟨category, current, around⟩ := outline
  induction around generalizing current query with
  | nil =>
    have refused : step ⟨category, current, []⟩ .closeGroup = .error .noOpenGroup := rfl
    rw [List.length_nil, Nat.zero_add, List.replicate_one, Query.run_cons,
      describes.perform_of_error refused]
    rfl
  | cons frame frames ih =>
    have stepped : step ⟨category, current, frame :: frames⟩ .closeGroup =
        .ok ⟨category, frame.add current.close, frames⟩ := rfl
    obtain ⟨told, after⟩ := describes.perform_of_ok stepped
    rw [List.length_cons, List.replicate_succ, Query.run_cons, told, ih _ after]
    rfl

end Outline

end InventoryQuery
