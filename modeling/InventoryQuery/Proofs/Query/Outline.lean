import InventoryQuery.Query.Call
import InventoryQuery.Query.Tree
/-! # Outlines of queries under construction

The arena of a query keeps parents, tokens and the cursor apart. An outline is the one tree they
encode, cut open along the way from the root to the cursor: a stack of open groups, each with the
members it got before the next group was opened. The open group is the last member of the group
around it, so whatever a call adds comes last on a depth-first walk.
-/

namespace InventoryQuery

namespace Tree

@[induction_eliminator]
theorem induct {P : Tree → Prop} (term : ∀ t, P (.term t))
    (group : ∀ id connective members, (∀ member ∈ members, P member) →
      P (.group id connective members)) (tree : Tree) : P tree :=
  @Tree.rec P (fun members => ∀ member ∈ members, P member) term group
    (fun _ absent => absurd absent List.not_mem_nil)
    (fun _ _ first others _ present => by
      rcases List.mem_cons.mp present with rfl | present
      · exact first
      · exact others _ present) tree

/-- The token by which a group holds a tree. -/
def token : Tree → Token
  | term t => .term t
  | group id _ _ => .group id

/-- What a walk through a tree meets: a group of the arena with its id, or a condition. -/
inductive Stop where
  | group (id : Nat) (group : Group)
  | term (term : Term)

/-- The id of the group that is met. -/
def Stop.id? : Stop → Option Nat
  | group id _ => some id
  | term _ => none

/-- The condition that is met. -/
def Stop.term? : Stop → Option Term
  | group _ _ => none
  | term t => some t

mutual

/-- A depth-first walk in token order, from below a parent; each group comes before its members. -/
def walk (parent : Option Nat) : Tree → List Stop
  | term t => [.term t]
  | group id connective members =>
    .group id ⟨parent, connective, members.map token⟩ :: walkEach (some id) members
termination_by structural tree => tree

/-- The walks through some trees, one after the other. -/
def walkEach (parent : Option Nat) : List Tree → List Stop
  | [] => []
  | member :: members => walk parent member ++ walkEach parent members
termination_by structural members => members

end

theorem walkEach_eq (parent : Option Nat) (members : List Tree) :
    walkEach parent members = members.flatMap (walk parent) := by
  induction members with
  | nil => rfl
  | cons member members ih => rw [walkEach, ih, List.flatMap_cons]

@[simp]
theorem walk_term (parent : Option Nat) (t : Term) : walk parent (.term t) = [.term t] := rfl

@[simp]
theorem walk_group (parent : Option Nat) (id : Nat) (connective : Option Connective)
    (members : List Tree) :
    walk parent (.group id connective members) =
      .group id ⟨parent, connective, members.map token⟩ :: members.flatMap (walk (some id)) := by
  rw [walk, walkEach_eq]

/-- The ids of the groups, in the order of the walk. -/
def ids (tree : Tree) : List Nat :=
  (tree.walk none).filterMap Stop.id?

/-- The conditions, in the order of the walk. -/
def terms (tree : Tree) : List Term :=
  (tree.walk none).filterMap Stop.term?

end Tree

/-- An open group: its id and connective, and the members it got before the next group was
opened. -/
structure Frame where
  id : Nat
  connective : Option Connective := none
  members : List Tree := []

namespace Frame

/-- The group that the arena holds for an open group, but for the token of the next open one. -/
def record (parent : Option Nat) (frame : Frame) : Group :=
  ⟨parent, frame.connective, frame.members.map Tree.token⟩

/-- Adds a member. -/
def add (frame : Frame) (tree : Tree) : Frame :=
  { frame with members := frame.members ++ [tree] }

/-- The tree of a group that gets no more members. -/
def close (frame : Frame) : Tree :=
  .group frame.id frame.connective frame.members

end Frame

/-- The category, the group under the cursor, and the groups around it from the inside out. -/
structure Outline where
  category : Option Category
  current : Frame
  around : List Frame

namespace Outline

/-- The id of the innermost of some open groups. -/
def innermost? (frames : List Frame) : Option Nat :=
  frames.head?.map Frame.id

/-- The tree that results when a tree becomes the last member of the innermost of some open
groups and these are closed. -/
def enclose (tree : Tree) : List Frame → Tree
  | [] => tree
  | frame :: frames => enclose (frame.add tree).close frames

/-- What a walk from the root meets before it gets to the last member of the innermost of some open
groups. -/
def before (last : Token) : List Frame → List Tree.Stop
  | [] => []
  | frame :: frames =>
    let group := frame.record (innermost? frames)
    before (.group frame.id) frames ++
      .group frame.id { group with tokens := group.tokens ++ [last] } ::
        frame.members.flatMap (Tree.walk (some frame.id))

theorem walk_enclose (tree : Tree) (frames : List Frame) :
    (enclose tree frames).walk none =
      before tree.token frames ++ tree.walk (innermost? frames) := by
  induction frames generalizing tree with
  | nil => rfl
  | cons frame frames ih =>
    rw [enclose, ih]
    simp [before, innermost?, Frame.record, Frame.add, Frame.close, Tree.token]

/-- The tree of all groups, as it is when no more calls are made. -/
def tree (outline : Outline) : Tree :=
  enclose outline.current.close outline.around

/-- The cursor's group comes after the groups around it, and all its members after it. -/
theorem walk_tree (outline : Outline) :
    outline.tree.walk none =
      before (.group outline.current.id) outline.around ++
        .group outline.current.id (outline.current.record (innermost? outline.around)) ::
          outline.current.members.flatMap (Tree.walk (some outline.current.id)) := by
  rw [tree, walk_enclose, Frame.close, Tree.walk_group]
  rfl

/-- The outline of the query without any condition. -/
def empty : Outline :=
  ⟨none, { id := 0 }, []⟩

/-- Fixes the category; another category than the fixed one is refused. -/
def setCategory (outline : Outline) (category : Category) : Except QueryError Outline :=
  match outline.category with
  | none => .ok { outline with category := some category }
  | some current =>
    if current = category then .ok outline else .error (.categoryConflict current category)

/-- Adds a member to the group under the cursor. -/
def push (outline : Outline) (tree : Tree) : Outline :=
  { outline with current := outline.current.add tree }

/-- Opens a group with the next id. -/
def openGroup (outline : Outline) : Outline :=
  ⟨outline.category, { id := outline.tree.ids.length }, outline.current :: outline.around⟩

/-- Closes the group under the cursor. -/
def closeGroup (outline : Outline) : Except QueryError Outline :=
  match outline.around with
  | [] => .error .noOpenGroup
  | frame :: frames => .ok ⟨outline.category, frame.add outline.current.close, frames⟩

/-- Declares the connective of the group under the cursor. -/
def declare (outline : Outline) (connective : Connective) : Except QueryError Outline :=
  match outline.current.connective with
  | none => .ok { outline with current := { outline.current with connective := some connective } }
  | some declared =>
    if declared = connective then .ok outline
    else .error (.connectiveConflict declared connective)

/-- What a call does to an outline, or why it is refused. -/
def step (outline : Outline) : Call → Except QueryError Outline
  | .setCategory category => outline.setCategory category
  | .addCondition category key value comparison negated =>
    match Builder.condition category key value comparison with
    | .error refusal => .error refusal
    | .ok term =>
      match outline.setCategory category with
      | .error refusal => .error refusal
      | .ok outline => .ok (outline.push (.term (Term.negateIf negated term)))
  | .addHosts hosts negated =>
    match HostPattern.anyOf? hosts negated with
    | none => .ok outline
    | some term => .ok (outline.push (.term term))
  | .openGroup => .ok outline.openGroup
  | .closeGroup => outline.closeGroup
  | .declare connective => outline.declare connective

/-- What a call leaves behind; a refused call changes nothing. -/
def perform (outline : Outline) (call : Call) : Outline :=
  (outline.step call).toOption.getD outline

/-- What some calls leave behind. -/
def run (outline : Outline) (calls : List Call) : Outline :=
  calls.foldl perform outline

end Outline

end InventoryQuery
