import InventoryQuery.Proofs.Query.Outline
/-! # The arena does what its outline does

`Outline.Describes` relates an outline to the arena it stands for. Each call keeps the relation and
is refused for the same reason on both sides (`Outline.Describes.perform`), and a refused call
leaves the arena as it is. The run lemma is `Outline.describes_ofCalls`: every query that calls
can build has an outline.
-/

namespace InventoryQuery

/-- What a call tells when it is not refused. -/
def Call.told (query : Query) : Call → Option Nat
  | .openGroup => some query.groups.size
  | _ => none

namespace Outline

open InventoryQuery.Tree (Stop walk)

/-- The arena holds the groups of an outline, its cursor and its category, and nothing else: the
walk meets the groups in the order of their ids. -/
structure Describes (outline : Outline) (query : Query) : Prop where
  category : query.category = outline.category
  cursor : query.cursor = outline.current.id
  ids : outline.tree.ids = List.range query.groups.size
  groups : ∀ id group, Stop.group id group ∈ outline.tree.walk none →
    query.group? id = some group

private theorem ids_of_walk {tree : Tree} {front back : List Stop} {id : Nat} {group : Group}
    (walked : tree.walk none = front ++ .group id group :: back) :
    tree.ids = front.filterMap Stop.id? ++ id :: back.filterMap Stop.id? := by
  simp [Tree.ids, walked, Stop.id?]

private theorem mem_ids_of_mem {stops : List Stop} {id : Nat} {group : Group}
    (present : Stop.group id group ∈ stops) : id ∈ stops.filterMap Stop.id? :=
  List.mem_filterMap.mpr ⟨_, present, rfl⟩

variable {outline : Outline} {query : Query}

namespace Describes

theorem group?_cursor (describes : outline.Describes query) :
    query.group? query.cursor =
      some (outline.current.record (innermost? outline.around)) := by
  rw [describes.cursor]
  apply describes.groups
  rw [walk_tree]
  exact List.mem_append_right _ List.mem_cons_self

theorem current (describes : outline.Describes query) :
    query.current = outline.current.record (innermost? outline.around) := by
  rw [Query.current, describes.group?_cursor, Option.getD_some]

theorem cursor_lt (describes : outline.Describes query) :
    query.cursor < query.groups.size := by
  have present := describes.group?_cursor
  rw [Query.group?, Array.getElem?_eq_some_iff] at present
  exact present.1

theorem id_lt (describes : outline.Describes query) {id : Nat} {group : Group}
    (present : Stop.group id group ∈ outline.tree.walk none) : id < query.groups.size := by
  have listed := mem_ids_of_mem present
  rwa [show (outline.tree.walk none).filterMap Stop.id? = List.range query.groups.size from
    describes.ids, List.mem_range] at listed

/-- Every group but the one under the cursor has another id. -/
theorem elsewhere (describes : outline.Describes query) {id : Nat} {group : Group}
    (present : Stop.group id group ∈ before (.group outline.current.id) outline.around ∨
      Stop.group id group ∈ outline.current.members.flatMap (walk (some outline.current.id))) :
    query.cursor ≠ id ∧ id < query.groups.size ∧ query.groups[id]? = some group := by
  have distinct : outline.tree.ids.Nodup := describes.ids ▸ List.nodup_range
  rw [ids_of_walk outline.walk_tree, List.nodup_append, List.nodup_cons] at distinct
  obtain ⟨_, ⟨later, _⟩, earlier⟩ := distinct
  have walked : Stop.group id group ∈ outline.tree.walk none := by
    rw [walk_tree]
    rcases present with present | present
    · exact List.mem_append_left _ present
    · exact List.mem_append_right _ (List.mem_cons_of_mem _ present)
  refine ⟨?_, describes.id_lt walked, describes.groups _ _ walked⟩
  rw [describes.cursor]
  rintro rfl
  rcases present with present | present
  · exact earlier _ (mem_ids_of_mem present) _ List.mem_cons_self rfl
  · exact later (mem_ids_of_mem present)

end Describes

theorem describes_empty : empty.Describes Query.empty where
  category := rfl
  cursor := rfl
  ids := rfl
  groups := by
    intro id group present
    rw [walk_tree] at present
    simp only [empty, before, List.nil_append, List.flatMap_nil, List.mem_singleton,
      Stop.group.injEq] at present
    obtain ⟨rfl, rfl⟩ := present
    rfl

namespace Describes

/-- Fixing the category touches no group. -/
theorem withCategory (describes : outline.Describes query) (category : Option Category) :
    Describes { outline with category } { query with category } where
  category := rfl
  cursor := describes.cursor
  ids := describes.ids
  groups := describes.groups

/-- A change of the group under the cursor that brings no new group is a change of its frame. -/
theorem update (describes : outline.Describes query) (frame : Frame) (terms : List Term)
    {change : Group → Group} (sameId : frame.id = outline.current.id)
    (changed : change (outline.current.record (innermost? outline.around)) =
      frame.record (innermost? outline.around))
    (added : frame.members.flatMap (walk (some outline.current.id)) =
      outline.current.members.flatMap (walk (some outline.current.id)) ++ terms.map Stop.term) :
    Describes { outline with current := frame } (query.updateCurrent change) where
  category := describes.category
  cursor := describes.cursor.trans sameId.symm
  ids := by
    have noIds : (terms.map Stop.term).filterMap Stop.id? = [] :=
      List.filterMap_eq_nil_iff.mpr (by simp [Stop.id?])
    rw [ids_of_walk (walk_tree _)]
    simp only [sameId, added, List.filterMap_append, noIds, List.append_nil]
    rw [← ids_of_walk outline.walk_tree, describes.ids]
    simp [Query.updateCurrent]
  groups := by
    intro id group present
    rw [walk_tree] at present
    simp only [sameId, added, List.mem_append, List.mem_cons, Stop.group.injEq, List.mem_map,
      reduceCtorEq, and_false, exists_false, or_false] at present
    simp only [Query.group?, Query.updateCurrent, Array.getElem?_modify]
    rcases present with earlier | ⟨rfl, rfl⟩ | later
    · obtain ⟨other, _, same⟩ := describes.elsewhere (.inl earlier)
      rw [if_neg other, same]
    · have held := describes.group?_cursor
      rw [describes.cursor] at held
      rw [if_pos describes.cursor, show query.groups[outline.current.id]? = some _ from held,
        Option.map_some, changed]
    · obtain ⟨other, _, same⟩ := describes.elsewhere (.inr later)
      rw [if_neg other, same]

theorem push (describes : outline.Describes query) (term : Term) :
    (outline.push (.term term)).Describes (query.updateCurrent fun group =>
      { group with tokens := group.tokens ++ [.term term] }) := by
  apply describes.update (outline.current.add (.term term)) [term] rfl
  · simp [Frame.record, Frame.add, Tree.token]
  · simp [Frame.add]

theorem declare (describes : outline.Describes query) (connective : Connective) :
    Describes { outline with current := { outline.current with connective := some connective } }
      (query.updateCurrent fun group => { group with connective := some connective }) := by
  apply describes.update { outline.current with connective := some connective } [] rfl
  · rfl
  · simp

/-- The opened group is the last of the arena, and its parent is the group under the cursor. -/
theorem openGroup (describes : outline.Describes query) :
    outline.openGroup.Describes
      { (query.updateCurrent fun group =>
          { group with tokens := group.tokens ++ [.group query.groups.size] }) with
        groups := ((query.updateCurrent fun group =>
          { group with tokens := group.tokens ++ [.group query.groups.size] }).groups).push
            { parent := some query.cursor }
        cursor := query.groups.size } := by
  have nextId : outline.tree.ids.length = query.groups.size := by
    rw [describes.ids, List.length_range]
  have walked : outline.openGroup.tree.walk none =
      before (.group outline.current.id) outline.around ++
        .group outline.current.id
          { outline.current.record (innermost? outline.around) with
            tokens := (outline.current.record (innermost? outline.around)).tokens ++
              [.group query.groups.size] } ::
        (outline.current.members.flatMap (walk (some outline.current.id)) ++
          [.group query.groups.size { parent := some query.cursor }]) := by
    rw [walk_tree]
    simp [Outline.openGroup, before, nextId, Frame.record, innermost?, describes.cursor]
  refine ⟨describes.category, nextId.symm, ?_, ?_⟩
  · rw [ids_of_walk walked]
    have old := describes.ids
    rw [ids_of_walk outline.walk_tree] at old
    simp only [Query.updateCurrent, Array.size_push, Array.size_modify, List.range_succ, ← old]
    simp [Stop.id?]
  · intro id group present
    simp only [walked, List.mem_append, List.mem_cons, Stop.group.injEq, List.not_mem_nil,
      or_false] at present
    simp only [Query.group?, Query.updateCurrent, Array.getElem?_push, Array.size_modify,
      Array.getElem?_modify]
    rcases present with earlier | ⟨rfl, rfl⟩ | later | ⟨rfl, rfl⟩
    · obtain ⟨other, inside, same⟩ := describes.elsewhere (.inl earlier)
      rw [if_neg (Nat.ne_of_lt inside), if_neg other, same]
    · have inside := describes.cursor_lt
      have held := describes.group?_cursor
      rw [describes.cursor] at inside held
      rw [if_neg (Nat.ne_of_lt inside), if_pos describes.cursor,
        show query.groups[outline.current.id]? = some _ from held, Option.map_some]
    · obtain ⟨other, inside, same⟩ := describes.elsewhere (.inr later)
      rw [if_neg (Nat.ne_of_lt inside), if_neg other, same]
    · rw [if_pos rfl]

/-- Closing a group leaves the tree as it is. -/
theorem closeGroup (describes : outline.Describes query) {frame : Frame} {frames : List Frame}
    (around : outline.around = frame :: frames) :
    Describes ⟨outline.category, frame.add outline.current.close, frames⟩
      { query with cursor := frame.id } := by
  have sameTree : Outline.tree ⟨outline.category, frame.add outline.current.close, frames⟩ =
      outline.tree := by
    rw [tree, tree, around, enclose]
  exact ⟨describes.category, rfl, sameTree ▸ describes.ids, sameTree ▸ describes.groups⟩

end Describes

/-- An operation on the arena and a step of the outline agree: both go on, or both refuse for one
reason and the arena stays as it is. -/
def Agree {α : Type} (told : α) (query : Query) :
    EStateM.Result QueryError Query α → Except QueryError Outline → Prop
  | .ok answer after, .ok next => answer = told ∧ next.Describes after
  | .error refusal after, .error refusal' => refusal = refusal' ∧ after = query
  | _, _ => False

namespace Describes

theorem agree_setCategory (describes : outline.Describes query) (category : Category) :
    Agree () query (Builder.setCategory category query) (outline.setCategory category) := by
  rw [Builder.setCategory, Outline.setCategory, describes.category]
  cases fixed : outline.category with
  | none => exact ⟨rfl, describes.withCategory _⟩
  | some current =>
    by_cases same : current = category
    · simpa [Agree, same] using describes
    · simp [Agree, same]

theorem agree_declare (describes : outline.Describes query) (connective : Connective) :
    Agree () query (Builder.declare connective query) (outline.declare connective) := by
  rw [Builder.declare, Outline.declare, describes.current, Frame.record]
  cases fixed : outline.current.connective with
  | none => exact ⟨rfl, describes.declare connective⟩
  | some declared =>
    by_cases same : declared = connective
    · simpa [Agree, same] using describes
    · simp [Agree, same]

theorem agree_closeGroup (describes : outline.Describes query) :
    Agree () query (Builder.closeGroup query) outline.closeGroup := by
  rw [Builder.closeGroup, Outline.closeGroup, describes.current, Frame.record]
  cases around : outline.around with
  | nil => exact ⟨rfl, rfl⟩
  | cons frame frames => exact ⟨rfl, describes.closeGroup around⟩

theorem agree_addCondition (describes : outline.Describes query) (category : Category)
    (key : String) (value : Option String) (comparison : Comparison) (negated : Bool) :
    Agree () query (Builder.addCondition category key value comparison negated query)
      (outline.step (.addCondition category key value comparison negated)) := by
  rw [Builder.addCondition, step]
  cases Builder.condition category key value comparison with
  | error refusal => exact ⟨rfl, rfl⟩
  | ok term =>
    have fixed := describes.agree_setCategory category
    simp only [bind, EStateM.bind]
    cases ran : Builder.setCategory category query with
    | error refusal after =>
      rw [ran] at fixed
      cases stepped : outline.setCategory category with
      | error refusal' => rwa [stepped] at fixed
      | ok next => rw [stepped] at fixed; exact fixed.elim
    | ok _ after =>
      rw [ran] at fixed
      cases stepped : outline.setCategory category with
      | error refusal' => rw [stepped] at fixed; exact fixed.elim
      | ok next =>
        rw [stepped] at fixed
        exact ⟨rfl, fixed.2.push _⟩

theorem agree_addHosts (describes : outline.Describes query) (hosts : List String)
    (negated : Bool) :
    Agree () query (Builder.addHosts hosts negated query)
      (outline.step (.addHosts hosts negated)) := by
  rw [Builder.addHosts, step]
  cases HostPattern.anyOf? hosts negated with
  | none => exact ⟨rfl, describes⟩
  | some term => exact ⟨rfl, describes.push term⟩

end Describes

private theorem Agree.andTell {query : Query} {operation : Builder Unit}
    {stepped : Except QueryError Outline} (agree : Agree () query (operation query) stepped) :
    Agree none query ((do operation; return none : Builder (Option Nat)) query) stepped := by
  simp only [bind, EStateM.bind]
  cases ran : operation query with
  | error refusal after =>
    rw [ran] at agree
    cases stepped with
    | error refusal' => exact agree
    | ok next => exact agree.elim
  | ok _ after =>
    rw [ran] at agree
    cases stepped with
    | error refusal => exact agree.elim
    | ok next => exact ⟨rfl, agree.2⟩

/-- Every call does to the arena what its step does to the outline. -/
theorem Describes.agree (describes : outline.Describes query) (call : Call) :
    Agree (call.told query) query (call.builder query) (outline.step call) := by
  cases call with
  | setCategory category => exact (describes.agree_setCategory category).andTell
  | addCondition category key value comparison negated =>
    exact (describes.agree_addCondition category key value comparison negated).andTell
  | addHosts hosts negated => exact (describes.agree_addHosts hosts negated).andTell
  | openGroup => exact ⟨rfl, describes.openGroup⟩
  | closeGroup => exact describes.agree_closeGroup.andTell
  | declare connective => exact (describes.agree_declare connective).andTell

/-- A call goes on exactly where its step does. -/
theorem Describes.perform_of_ok (describes : outline.Describes query) {call : Call}
    {next : Outline} (stepped : outline.step call = .ok next) :
    (query.perform call).1 = .ok (call.told query) ∧ next.Describes (query.perform call).2 := by
  have agree := describes.agree call
  rw [stepped] at agree
  rw [Query.perform]
  cases ran : call.builder query with
  | error refusal after => rw [ran] at agree; exact agree.elim
  | ok told after =>
    rw [ran] at agree
    exact ⟨congrArg Except.ok agree.1, agree.2⟩

/-- A refused call leaves the arena as it is. -/
theorem Describes.perform_of_error (describes : outline.Describes query) {call : Call}
    {refusal : QueryError} (refused : outline.step call = .error refusal) :
    query.perform call = (.error refusal, query) := by
  have agree := describes.agree call
  rw [refused] at agree
  rw [Query.perform]
  cases ran : call.builder query with
  | ok told after => rw [ran] at agree; exact agree.elim
  | error refusal' after =>
    rw [ran] at agree
    obtain ⟨rfl, rfl⟩ := agree
    rfl

theorem Describes.perform (describes : outline.Describes query) (call : Call) :
    (outline.perform call).Describes (query.perform call).2 := by
  rw [Outline.perform]
  cases stepped : outline.step call with
  | error refusal =>
    rw [describes.perform_of_error stepped]
    exact describes
  | ok next => exact (describes.perform_of_ok stepped).2

theorem Describes.run (describes : outline.Describes query) (calls : List Call) :
    (outline.run calls).Describes (query.run calls).2 := by
  induction calls generalizing outline query with
  | nil => exact describes
  | cons call calls ih => exact ih (describes.perform call)

/-- Every query that calls can build has an outline. -/
theorem describes_ofCalls (calls : List Call) :
    (empty.run calls).Describes (Query.ofCalls calls) :=
  describes_empty.run calls

end Outline

end InventoryQuery
