import InventoryQuery.Proofs.Query.Relocation
/-! # Subgroups are queries of their own

Whatever builds a query and leaves no group open can be put between opening and closing a group of
another query. The group under the cursor gets one token, nothing else that was there changes, and
the new group has the outcome of the query that is built alone.
-/

namespace InventoryQuery

open Category (Compatible)

namespace Outline.Describes

variable {outline next : Outline} {query query' : Query}

/-- A member of the group under the cursor is found at its id. -/
theorem treeAt_member (describes : outline.Describes query) {member : Tree} {id : Nat}
    (present : member ∈ outline.current.members) (named : member.token = .group id) :
    query.treeAt id = .ok member := by
  have held : member.HeldBy query (some outline.current.id) := by
    intro id group met
    apply describes.groups
    rw [walk_tree]
    apply List.mem_append_right
    apply List.mem_cons_of_mem
    exact List.mem_flatMap.mpr ⟨member, present, met⟩
  have enough : member.size (some outline.current.id) ≤ query.groups.size := by
    have inside := Tree.size_lt_of_mem (innermost? outline.around) outline.current.id
      outline.current.connective present
    have whole := size_enclose outline.current.close outline.around
    have total := describes.size_tree
    have same := outline.current.close.size_parent none (innermost? outline.around)
    rw [tree] at total
    rw [Frame.close] at same whole total
    omega
  have followed := member.follow_token held enough
  rwa [named] at followed

/-- If the outline only gets one more member under the cursor, so does the arena. -/
theorem group?_of_add (describes : outline.Describes query) (describes' : next.Describes query')
    {added : Tree} (current : next.current = outline.current.add added)
    (around : next.around = outline.around) :
    query'.group? query.cursor =
        some { query.current with tokens := query.current.tokens ++ [added.token] } ∧
      ∀ id < query.groups.size, id ≠ query.cursor → query'.group? id = query.group? id := by
  have sameCursor : query'.cursor = query.cursor := by
    rw [describes'.cursor, current, describes.cursor]
    rfl
  constructor
  · have held := describes'.group?_cursor
    rw [sameCursor, current, around] at held
    rw [held, describes.current]
    simp [Frame.record, Frame.add]
  · intro id inside other
    obtain ⟨group, stored⟩ : ∃ group, query.group? id = some group :=
      ⟨query.groups[id], Array.getElem?_eq_getElem inside⟩
    have met := describes.mem_walk_iff.mpr stored
    rw [stored]
    apply describes'.groups
    rw [walk_tree, List.mem_append, List.mem_cons] at met
    rw [walk_tree, List.mem_append, List.mem_cons, current, around]
    rcases met with earlier | here | below
    · exact .inl earlier
    · obtain ⟨rfl, _⟩ := Tree.Stop.group.inj here
      exact absurd describes.cursor.symm other
    · refine .inr (.inr ?_)
      rw [show (outline.current.add added).members = outline.current.members ++ [added] from rfl,
        List.flatMap_append]
      exact List.mem_append_left _ below

end Outline.Describes

/-- Calls that succeed on a query of their own and leave no group open succeed inside a new group of
every query of a category that goes with theirs. The group under the cursor gets the new group as
its one new token, the other groups stay, the cursor returns, and the new group renders as the query
of these calls alone. -/
theorem replay_subgroup {program : List Call} {built : Query}
    (replayed : Query.empty.replay program = .ok built) (closed : built.atRoot = true)
    (calls : List Call)
    (compatible : Compatible (Query.ofCalls calls).category built.category) :
    let query := Query.ofCalls calls
    let opened := query.groups.size
    (query.perform .openGroup).1 = .ok (some opened) ∧
      ∃ next, query.replay (.openGroup :: (program ++ [.closeGroup])) = .ok next ∧
        next.cursor = query.cursor ∧
        next.category = query.category.or built.category ∧
        next.group? query.cursor =
          some { query.current with tokens := query.current.tokens ++ [.group opened] } ∧
        (∀ id < opened, id ≠ query.cursor → next.group? id = query.group? id) ∧
        ∀ hostKey, next.renderGroup hostKey opened = built.render hostKey := by
  intro query opened
  have describes : (Outline.empty.run calls).Describes query := Outline.describes_ofCalls calls
  obtain ⟨inner, outlined, describesInner⟩ := Outline.describes_empty.exists_of_replay replayed
  have root := describesInner.atRoot_iff.mp closed
  rw [describesInner.category] at compatible ⊢
  rw [show (Query.ofCalls calls).category = _ from describes.category] at compatible
  have enclosed := Outline.replay_enclosed outlined root compatible
  obtain ⟨next, done, describesNext⟩ := describes.replay_of_ok enclosed
  have offset : (Outline.empty.run calls).tree.ids.length = opened := by
    rw [describes.ids, List.length_range]
  obtain ⟨connective, members, same⟩ := describesInner.tree_eq_group
  have token : (inner.tree.shift (Outline.empty.run calls).tree.ids.length).token =
      .group opened := by
    rw [same, Tree.shift_group, offset, Tree.token, Nat.add_zero]
  obtain ⟨gained, kept⟩ := describes.group?_of_add describesNext rfl rfl
  refine ⟨rfl, next, done, ?_, ?_, ?_, kept, ?_⟩
  · rw [describesNext.cursor, describes.cursor]
    rfl
  · rw [describesNext.category, describes.category]
  · rw [gained, token]
  · intro hostKey
    have found := describesNext.treeAt_member
      (List.mem_append_right _ List.mem_cons_self) token
    rw [Query.renderGroup, found, describesInner.render_eq]
    exact Tree.render_shift hostKey _ _

/-- Calls that open a group themselves, inside an open group of a query on hosts. -/
theorem replay_subgroup_nested :
    let program : List Call := [.addCondition .fact "os" (some "Debian") .equal false,
      .declare .or, .openGroup, .addHosts ["web*"] true, .closeGroup]
    let query := Query.ofCalls [.addHosts ["db1"] false, .declare .and, .openGroup]
    ∃ built next, Query.empty.replay program = .ok built ∧ built.atRoot = true ∧
      Compatible query.category built.category ∧
      query.replay (.openGroup :: (program ++ [.closeGroup])) = .ok next ∧
      next.cursor = 1 ∧ next.category = some .fact ∧
      next.group? 1 = some ⟨some 0, none, [.group 2]⟩ ∧
      ∀ hostKey, next.renderGroup hostKey 2 = built.render hostKey := by
  intro program query
  have replayed : Query.empty.replay program = .ok (Query.ofCalls program) := by rfl
  have compatible : Compatible query.category (Query.ofCalls program).category :=
    Category.none_compatible _
  obtain ⟨_, next, done, cursor, category, gained, _, rendered⟩ :=
    replay_subgroup replayed rfl _ compatible
  exact ⟨_, next, replayed, rfl, compatible, done, cursor, category, gained, rendered⟩

end InventoryQuery
