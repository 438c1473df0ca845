import InventoryQuery.Proofs.Query.Simulation
/-! # Following the ids of an arena

An arena that holds the groups of a tree yields this tree when it is followed from the root, and the
fuel for it suffices. So the tree of a query is the tree of its outline, and the groups of the arena
are the groups on the walk through it.
-/

namespace InventoryQuery

namespace Tree

/-- The arena holds every group of a tree. -/
def HeldBy (query : Query) (parent : Option Nat) (tree : Tree) : Prop :=
  ∀ id group, Stop.group id group ∈ tree.walk parent → query.group? id = some group

variable {query : Query}

theorem heldBy_group {parent : Option Nat} {id : Nat} {connective : Option Connective}
    {members : List Tree} :
    HeldBy query parent (.group id connective members) ↔
      query.group? id = some ⟨parent, connective, members.map token⟩ ∧
        ∀ member ∈ members, HeldBy query (some id) member := by
  simp only [HeldBy, walk_group, List.mem_cons, Stop.group.injEq, List.mem_flatMap]
  constructor
  · intro held
    exact ⟨held _ _ (.inl ⟨rfl, rfl⟩), fun member present id group met =>
      held id group (.inr ⟨member, present, met⟩)⟩
  · rintro ⟨held, each⟩ id group (⟨rfl, rfl⟩ | ⟨member, present, met⟩)
    · exact held
    · exact each member present id group met

/-- The number of groups on a walk. -/
def size (parent : Option Nat) (tree : Tree) : Nat :=
  ((tree.walk parent).filterMap Stop.id?).length

theorem size_lt_of_mem (parent : Option Nat) (id : Nat) (connective : Option Connective)
    {members : List Tree} {member : Tree} (present : member ∈ members) :
    member.size (some id) < size parent (.group id connective members) := by
  have inside : (member.walk (some id)).Sublist (members.flatMap (walk (some id))) := by
    rw [List.flatMap_def]
    exact List.sublist_flatten_of_mem (List.mem_map_of_mem present)
  have shorter := (inside.filterMap Stop.id?).length_le
  simp only [size, walk_group, List.filterMap_cons, Stop.id?, List.length_cons]
  omega

end Tree

namespace Query

/-- The tree that a token leads to. -/
def follow (query : Query) (fuel : Nat) : Token → Except QueryError Tree
  | .term t => .ok (.term t)
  | .group child => query.treeWithin fuel child

theorem treeWithin_succ (query : Query) (fuel id : Nat) :
    query.treeWithin (fuel + 1) id =
      match query.group? id with
      | none => .error (.unknownGroup id)
      | some group => do
        let members ← group.tokens.mapM (query.follow fuel)
        return .group id group.connective members := rfl

end Query

namespace Tree

theorem mapM_token {f : Token → Except QueryError Tree} {members : List Tree}
    (each : ∀ member ∈ members, f member.token = .ok member) :
    (members.map token).mapM f = .ok members := by
  induction members with
  | nil => rfl
  | cons member members ih =>
    rw [List.map_cons, List.mapM_cons, each member List.mem_cons_self,
      ih fun other present => each other (List.mem_cons_of_mem _ present)]
    rfl

/-- Following the token of a tree leads back to the tree. -/
theorem follow_token {query : Query} {parent : Option Nat} {fuel : Nat} (tree : Tree)
    (held : tree.HeldBy query parent) (enough : tree.size parent ≤ fuel) :
    query.follow fuel tree.token = .ok tree := by
  induction tree generalizing fuel parent with
  | term t => rfl
  | group id connective members ih =>
    obtain ⟨stored, each⟩ := heldBy_group.mp held
    cases fuel with
    | zero => simp [size, Stop.id?] at enough
    | succ fuel =>
      have followed : (members.map token).mapM (query.follow fuel) = .ok members := by
        apply mapM_token
        intro member present
        have smaller := size_lt_of_mem parent id connective present
        exact ih member present (each member present) (by omega)
      rw [token, Query.follow, Query.treeWithin_succ, stored]
      simp only [followed]
      rfl

theorem mem_terms_iff {t : Term} {tree : Tree} : t ∈ tree.terms ↔ Stop.term t ∈ tree.walk none := by
  rw [terms, List.mem_filterMap]
  constructor
  · rintro ⟨stop, met, found⟩
    cases stop with
    | group id group => cases found
    | term t' =>
      obtain rfl := Option.some.inj found
      exact met
  · intro met
    exact ⟨_, met, rfl⟩

/-- The conditions on a walk are those that its groups hold, unless the tree is a condition. -/
theorem mem_walk_term_iff {parent : Option Nat} {t : Term} (tree : Tree) :
    Stop.term t ∈ tree.walk parent ↔
      tree = .term t ∨ ∃ id group, Stop.group id group ∈ tree.walk parent ∧
        .term t ∈ group.tokens := by
  induction tree generalizing parent with
  | term t' => simp [eq_comm]
  | group id connective members ih =>
    have ofToken (member : Tree) : member.token = .term t ↔ member = .term t := by
      cases member <;> simp [token]
    have here : Token.term t ∈ members.map token ↔ .term t ∈ members := by
      simp [List.mem_map, ofToken]
    rw [walk_group]
    constructor
    · intro met
      obtain ⟨member, present, met⟩ := List.mem_flatMap.mp (by simpa using met)
      rcases (ih member present).mp met with rfl | ⟨id', group, below, held⟩
      · exact .inr ⟨id, _, List.mem_cons_self, here.mpr present⟩
      · exact .inr ⟨id', group,
          List.mem_cons_of_mem _ (List.mem_flatMap.mpr ⟨member, present, below⟩), held⟩
    · rintro (same | ⟨id', group, met, held⟩)
      · cases same
      · apply List.mem_cons_of_mem
        rcases List.mem_cons.mp met with same | below
        · obtain ⟨_, rfl⟩ := Stop.group.inj same
          exact List.mem_flatMap.mpr ⟨_, here.mp held, by simp⟩
        · obtain ⟨member, present, below⟩ := List.mem_flatMap.mp below
          exact List.mem_flatMap.mpr
            ⟨member, present, (ih member present).mpr (.inr ⟨id', group, below, held⟩)⟩

end Tree

namespace Outline

variable {outline : Outline} {query : Query}

theorem enclose_eq_group (frame : Frame) (frames : List Frame) :
    ∃ id connective members, enclose frame.close frames = .group id connective members := by
  induction frames generalizing frame with
  | nil => exact ⟨_, _, _, rfl⟩
  | cons outer frames ih => exact ih (outer.add frame.close)

namespace Describes

theorem heldBy (describes : outline.Describes query) : outline.tree.HeldBy query none :=
  describes.groups

theorem size_tree (describes : outline.Describes query) :
    outline.tree.size none = query.groups.size := by
  rw [Tree.size, show (outline.tree.walk none).filterMap _ = _ from describes.ids,
    List.length_range]

/-- The arena is the groups on the walk. -/
theorem mem_walk_iff (describes : outline.Describes query) {id : Nat} {group : Group} :
    Tree.Stop.group id group ∈ outline.tree.walk none ↔ query.group? id = some group := by
  constructor
  · exact describes.groups id group
  · intro stored
    have listed : id ∈ outline.tree.ids := by
      rw [describes.ids, List.mem_range]
      exact (Array.getElem?_eq_some_iff.mp stored).1
    obtain ⟨stop, met, same⟩ := List.mem_filterMap.mp listed
    cases stop with
    | term t => simp [Tree.Stop.id?] at same
    | group id' other =>
      obtain rfl := Option.some.inj same
      have both := (describes.groups _ _ met).symm.trans stored
      rwa [Option.some.inj both] at met

/-- The tree begins at the root of the arena. -/
theorem tree_eq_group (describes : outline.Describes query) :
    ∃ connective members, outline.tree = .group 0 connective members := by
  obtain ⟨id, connective, members, same⟩ := enclose_eq_group outline.current outline.around
  have ids := describes.ids
  have positive : 0 < query.groups.size := Nat.zero_lt_of_lt describes.cursor_lt
  rw [tree, same, Tree.ids, Tree.walk_group, List.filterMap_cons,
    ← Nat.succ_pred_eq_of_pos positive, List.range_succ_eq_map] at ids
  obtain rfl := (List.cons.inj ids).1
  exact ⟨connective, members, same⟩

theorem root_parent (describes : outline.Describes query) : query.root.parent = none := by
  obtain ⟨connective, members, same⟩ := describes.tree_eq_group
  have held := describes.heldBy
  rw [same, Tree.heldBy_group] at held
  rw [Query.root, held.1, Option.getD_some]

theorem atRoot_iff (describes : outline.Describes query) :
    query.atRoot = true ↔ outline.around = [] := by
  constructor
  · intro atRoot
    have cursor : query.cursor = 0 := by simpa [Query.atRoot] using atRoot
    have held := describes.group?_cursor
    have parent := describes.root_parent
    rw [cursor] at held
    rw [Query.root, held, Option.getD_some, Frame.record] at parent
    cases around : outline.around with
    | nil => rfl
    | cons frame frames =>
      rw [around] at parent
      cases parent
  · intro root
    obtain ⟨connective, members, same⟩ := describes.tree_eq_group
    rw [tree, root, enclose, Frame.close] at same
    have first := (Tree.group.inj same).1
    rw [Query.atRoot, describes.cursor, first]
    rfl

/-- Followed from the root, the arena yields the tree of the outline. -/
theorem tree_eq (describes : outline.Describes query) : query.tree = .ok outline.tree := by
  obtain ⟨connective, members, same⟩ := describes.tree_eq_group
  have followed := outline.tree.follow_token describes.heldBy (Nat.le_of_eq describes.size_tree)
  rw [same] at followed ⊢
  exact followed

theorem render_eq (describes : outline.Describes query) (hostKey : String) :
    query.render hostKey = outline.tree.render hostKey := by
  rw [Query.render, Query.renderGroup, show query.treeAt 0 = _ from describes.tree_eq]
  rfl

end Describes

end Outline

end InventoryQuery
