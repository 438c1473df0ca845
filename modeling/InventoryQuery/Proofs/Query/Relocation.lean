import Mathlib.Algebra.GroupWithZero.Nat
import InventoryQuery.Proofs.Query.Outcome
import InventoryQuery.Proofs.Query.Step
/-! # Calls inside a group

Calls do inside a newly opened group what they do on a query of their own: the outline of that
query, with its ids moved behind those already given, stands in the place of the group
(`Outline.within`). Only a category that is fixed outside can make a difference, and then the first
call that fixes another one is refused.
-/

namespace InventoryQuery

namespace Tree

mutual

/-- A tree with its ids moved up. -/
def shift (offset : Nat) : Tree → Tree
  | term t => .term t
  | group id connective members => .group (offset + id) connective (shiftEach offset members)
termination_by structural tree => tree

/-- Some trees with their ids moved up. -/
def shiftEach (offset : Nat) : List Tree → List Tree
  | [] => []
  | member :: members => shift offset member :: shiftEach offset members
termination_by structural members => members

end

theorem shiftEach_eq (offset : Nat) (members : List Tree) :
    shiftEach offset members = members.map (shift offset) := by
  induction members with
  | nil => rfl
  | cons member members ih => rw [shiftEach, ih, List.map_cons]

@[simp]
theorem shift_group (offset id : Nat) (connective : Option Connective) (members : List Tree) :
    shift offset (.group id connective members) =
      .group (offset + id) connective (members.map (shift offset)) := by
  rw [shift, shiftEach_eq]

/-- A text does not show the ids. -/
theorem render_shift (hostKey : String) (offset : Nat) (tree : Tree) :
    (tree.shift offset).render hostKey = tree.render hostKey := by
  induction tree with
  | term t => rfl
  | group id connective members ih =>
    have same : (members.map (shift offset)).map (render hostKey) =
        members.map (render hostKey) := by
      rw [List.map_map]
      exact List.map_congr_left ih
    rw [shift_group, render_group, render_group, same]

theorem size_parent (parent parent' : Option Nat) (tree : Tree) :
    tree.size parent = tree.size parent' := by
  cases tree <;> simp [size, Stop.id?]

theorem size_group (parent : Option Nat) (id : Nat) (connective : Option Connective)
    (members : List Tree) :
    size parent (.group id connective members) = (members.map (size none)).sum + 1 := by
  have each : ∀ member ∈ members,
      ((member.walk (some id)).filterMap Stop.id?).length = member.size none :=
    fun member _ => member.size_parent (some id) none
  simp only [size, walk_group, List.filterMap_cons, Stop.id?, List.length_cons,
    List.filterMap_flatMap, List.length_flatMap]
  rw [List.map_congr_left each]

theorem size_shift (offset : Nat) (tree : Tree) (parent : Option Nat) :
    (tree.shift offset).size parent = tree.size parent := by
  induction tree generalizing parent with
  | term t => rfl
  | group id connective members ih =>
    have same : (members.map (shift offset)).map (size none) = members.map (size none) := by
      rw [List.map_map]
      exact List.map_congr_left fun member present => ih member present none
    rw [shift_group, size_group, size_group, same]

end Tree

namespace Frame

/-- An open group with its ids moved up. -/
def shift (offset : Nat) (frame : Frame) : Frame :=
  ⟨offset + frame.id, frame.connective, frame.members.map (Tree.shift offset)⟩

/-- The number of groups in an open group, itself included. -/
def size (frame : Frame) : Nat :=
  frame.close.size none

theorem shift_add (offset : Nat) (frame : Frame) (tree : Tree) :
    (frame.add tree).shift offset = (frame.shift offset).add (tree.shift offset) := by
  simp [shift, add]

theorem shift_close (offset : Nat) (frame : Frame) :
    (frame.shift offset).close = frame.close.shift offset := by
  rw [close, close, Tree.shift_group]
  rfl

@[simp]
theorem size_shift (offset : Nat) (frame : Frame) : (frame.shift offset).size = frame.size := by
  rw [size, shift_close, Tree.size_shift]
  rfl

theorem size_add (frame : Frame) (tree : Tree) :
    (frame.add tree).size = frame.size + tree.size none := by
  simp only [size, close, add, Tree.size_group, List.map_append, List.sum_append, List.map_cons,
    List.map_nil, List.sum_cons, List.sum_nil]
  omega

end Frame

namespace Outline

open Category (Compatible)

theorem size_enclose (tree : Tree) (frames : List Frame) :
    (enclose tree frames).size none = tree.size none + (frames.map Frame.size).sum := by
  induction frames generalizing tree with
  | nil => rfl
  | cons frame frames ih =>
    have closed : (frame.add tree).close.size none = frame.size + tree.size none :=
      frame.size_add tree
    rw [enclose, ih, closed, List.map_cons, List.sum_cons]
    omega

/-- The groups of an outline are those in its open groups. -/
theorem length_ids (outline : Outline) :
    outline.tree.ids.length = outline.current.size + (outline.around.map Frame.size).sum :=
  size_enclose outline.current.close outline.around

/-- An outline in the place of the group that is opened next in another one. -/
def within (outer inner : Outline) : Outline :=
  let offset := outer.tree.ids.length
  ⟨outer.category.or inner.category, inner.current.shift offset,
    inner.around.map (Frame.shift offset) ++ outer.current :: outer.around⟩

variable {outer inner next : Outline} {call : Call} {calls : List Call}

theorem openGroup_eq_within (outer : Outline) : outer.openGroup = outer.within empty := by
  simp [openGroup, within, empty, Frame.shift]

theorem length_ids_within (outer inner : Outline) :
    (outer.within inner).tree.ids.length = outer.tree.ids.length + inner.tree.ids.length := by
  have same : (inner.around.map (Frame.shift outer.tree.ids.length)).map Frame.size =
      inner.around.map Frame.size := by
    rw [List.map_map]
    exact List.map_congr_left fun frame _ => frame.size_shift _
  rw [length_ids, length_ids inner]
  simp only [within, Frame.size_shift, List.map_append, List.sum_append, same, List.map_cons,
    List.sum_cons]
  rw [length_ids outer]
  omega

theorem within_openGroup (outer inner : Outline) :
    outer.within inner.openGroup = (outer.within inner).openGroup := by
  rw [openGroup, openGroup, length_ids_within]
  rfl

theorem within_push (outer inner : Outline) (t : Term) :
    outer.within (inner.push (.term t)) = (outer.within inner).push (.term t) := by
  rw [within, push, Frame.shift_add]
  rfl

theorem within_category {category : Category}
    (compatible : Compatible outer.category (some category)) :
    outer.within { inner with category := some category } =
      { outer.within inner with category := some category } := by
  rw [within, compatible.or_some]
  rfl

theorem compatible_within {category : Option Category} (left : Compatible outer.category category)
    (right : Compatible inner.category category) :
    Compatible (outer.within inner).category category := by
  rw [within]
  cases known : outer.category with
  | none => exact right
  | some c => rwa [known] at left

/-- A step inside a group does what it does on its own, if the category it leaves goes with the one
outside. -/
theorem step_within (stepped : inner.step call = .ok next)
    (compatible : Compatible outer.category next.category) :
    (outer.within inner).step call = .ok (outer.within next) := by
  rw [step_eq_ok_iff]
  cases step_eq_ok_iff.mp stepped with
  | category fits =>
    rw [within_category compatible]
    exact .category (compatible_within compatible fits)
  | condition formed fits =>
    rw [within_push, within_category compatible]
    exact .condition formed (compatible_within compatible fits)
  | noHosts absent => exact .noHosts absent
  | hosts found =>
    rw [within_push]
    exact .hosts found
  | opened =>
    rw [within_openGroup]
    exact .opened
  | @closed frame frames around =>
    have inside : (outer.within inner).around =
        frame.shift outer.tree.ids.length ::
          (frames.map (Frame.shift outer.tree.ids.length) ++ outer.current :: outer.around) := by
      rw [within, around]
      rfl
    have closed := Step.closed inside
    rwa [show (outer.within inner).current.close = _ from Frame.shift_close _ _,
      ← Frame.shift_add] at closed
  | declared agrees => exact .declared agrees

/-- The step that fixes another category than the one outside is refused. -/
theorem step_within_conflict {current requested : Category} (stepped : inner.step call = .ok next)
    (outside : outer.category = some current) (before : Compatible outer.category inner.category)
    (fixes : next.category = some requested) (conflict : current ≠ requested) :
    (outer.within inner).step call = .error (.categoryConflict current requested) := by
  obtain ⟨compatible, category⟩ := category_of_step stepped
  have refused : (outer.within inner).setCategory requested =
      .error (.categoryConflict current requested) := by
    simp [setCategory, within, outside, conflict]
  have kept (same : next.category = inner.category) : False := by
    rw [outside, ← same, fixes, Category.compatible_some_iff] at before
    exact conflict before
  cases step_eq_ok_iff.mp stepped with
  | category fits =>
    cases fixes
    exact refused
  | condition formed fits =>
    cases fixes
    rw [step, formed]
    simp only [refused]
  | noHosts | hosts | opened | closed | declared => exact (kept rfl).elim

theorem replay_within (replayed : inner.replay calls = .ok next)
    (compatible : Compatible outer.category next.category) :
    (outer.within inner).replay calls = .ok (outer.within next) := by
  induction calls generalizing inner with
  | nil =>
    cases replayed
    rfl
  | cons call calls ih =>
    obtain ⟨between, stepped, more⟩ := replay_cons_eq_ok replayed
    rw [replay, step_within stepped (compatible_of_replay more compatible)]
    exact ih more

theorem replay_within_conflict {current requested : Category}
    (replayed : inner.replay calls = .ok next) (outside : outer.category = some current)
    (before : Compatible outer.category inner.category) (fixes : next.category = some requested)
    (conflict : current ≠ requested) :
    (outer.within inner).replay calls = .error (.categoryConflict current requested) := by
  induction calls generalizing inner with
  | nil =>
    cases replayed
    rw [outside, fixes, Category.compatible_some_iff] at before
    exact absurd before conflict
  | cons call calls ih =>
    obtain ⟨between, stepped, more⟩ := replay_cons_eq_ok replayed
    rw [replay]
    by_cases after : Compatible outer.category between.category
    · rw [step_within stepped after]
      exact ih more after
    · obtain ⟨c, c', outside', fixed, differ⟩ := Category.exists_of_not_compatible after
      have last := category_kept_of_replay fixed more
      obtain rfl := Option.some.inj (outside.symm.trans outside')
      obtain rfl := Option.some.inj (fixes.symm.trans last)
      rw [step_within_conflict stepped outside before fixed conflict]
      rfl

/-- A group around calls that leave no group open: one more member, the tree that the calls build
on their own. -/
theorem replay_enclosed (replayed : empty.replay calls = .ok inner) (root : inner.around = [])
    (compatible : Compatible outer.category inner.category) :
    outer.replay (.openGroup :: (calls ++ [.closeGroup])) =
      .ok ⟨outer.category.or inner.category,
        outer.current.add (inner.tree.shift outer.tree.ids.length), outer.around⟩ := by
  have opened : outer.step .openGroup = .ok (outer.within empty) :=
    congrArg Except.ok outer.openGroup_eq_within
  have inside : (outer.within inner).around = outer.current :: outer.around := by
    rw [within, root]
    rfl
  have closed := step_eq_ok_iff.mpr (Step.closed inside)
  have alone : inner.tree = inner.current.close := by
    rw [Outline.tree, root]
    rfl
  have tree : (outer.within inner).current.close = inner.tree.shift outer.tree.ids.length := by
    rw [alone]
    exact Frame.shift_close _ _
  rw [replay, opened, Except.bind, replay_append, replay_within replayed compatible, Except.bind,
    replay, closed, tree]
  rfl

/-- A group around calls is refused if these fix another category than the one outside. -/
theorem replay_enclosed_conflict {current requested : Category}
    (replayed : empty.replay calls = .ok inner) (outside : outer.category = some current)
    (fixes : inner.category = some requested) (conflict : current ≠ requested)
    (others : List Call) :
    outer.replay (.openGroup :: (calls ++ others)) =
      .error (.categoryConflict current requested) := by
  have opened : outer.step .openGroup = .ok (outer.within empty) :=
    congrArg Except.ok outer.openGroup_eq_within
  have refused := replay_within_conflict replayed outside (Category.compatible_none _) fixes conflict
  rw [replay, opened, Except.bind, replay_append, refused]
  rfl

end Outline

end InventoryQuery
