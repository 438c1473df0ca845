import InventoryQuery.Proofs.Query.Step
import InventoryQuery.Proofs.Query.Unfolding
/-! # The arena is a tree in chronological order

A depth-first walk from the root meets the groups in the order of their ids and the conditions in
the order in which calls added them. Nothing is lost, whatever calls are refused in between: a step
of the outline puts its condition at the end of the walk (`Outline.terms_of_step`).
-/

namespace InventoryQuery

/-- The condition that a call adds, if it is a call for a condition and this one can be formed. -/
def Call.term? : Call → Option Term
  | addCondition category key value comparison negated =>
    (Builder.condition category key value comparison).toOption.map (Term.negateIf negated)
  | addHosts hosts negated => HostPattern.anyOf? hosts negated
  | _ => none

/-- A call adds a condition: it is a call for a condition that can be formed, or a call for at least
one host. -/
inductive Call.Adds : Call → Term → Prop
  | condition {category : Category} {key : String} {value : Option String}
      {comparison : Comparison} {term : Term} (negated : Bool)
      (formed : Builder.condition category key value comparison = .ok term) :
      Adds (.addCondition category key value comparison negated) (Term.negateIf negated term)
  | hosts {hosts : List String} (negated : Bool) (named : hosts ≠ []) :
      Adds (.addHosts hosts negated)
        (Term.negateIf negated (.combine .or (hosts.map HostPattern.term)))

theorem Call.term?_eq_some_iff {call : Call} {added : Term} :
    call.term? = some added ↔ call.Adds added := by
  constructor
  · intro adds
    cases call with
    | addCondition category key value comparison negated =>
      rw [term?] at adds
      cases formed : Builder.condition category key value comparison with
      | error refusal =>
        rw [formed] at adds
        cases adds
      | ok term =>
        rw [formed] at adds
        cases adds
        exact .condition negated formed
    | addHosts hosts negated =>
      obtain ⟨named, rfl⟩ := HostPattern.anyOf?_eq_some_iff.mp adds
      exact .hosts negated named
    | setCategory | openGroup | closeGroup | declare => cases adds
  · intro adds
    cases adds with
    | condition negated formed =>
      rw [term?, formed]
      rfl
    | hosts negated named => exact HostPattern.anyOf?_eq_some_iff.mpr ⟨named, rfl⟩

namespace Outline

open InventoryQuery.Tree (Stop walk)

/-- The conditions of the open groups come before those of the group under the cursor. -/
theorem terms_tree (outline : Outline) :
    outline.tree.terms =
      (before (.group outline.current.id) outline.around).filterMap Stop.term? ++
        outline.current.members.flatMap fun member =>
          (member.walk (some outline.current.id)).filterMap Stop.term? := by
  rw [Tree.terms, walk_tree, List.filterMap_append, List.filterMap_cons, List.filterMap_flatMap]
  rfl

theorem terms_push (outline : Outline) (term : Term) :
    (outline.push (.term term)).tree.terms = outline.tree.terms ++ [term] := by
  rw [terms_tree, terms_tree]
  simp [push, Frame.add, Stop.term?]

theorem terms_openGroup (outline : Outline) :
    outline.openGroup.tree.terms = outline.tree.terms := by
  rw [terms_tree, terms_tree, openGroup, before, List.filterMap_append,
    List.filterMap_cons_none rfl, List.filterMap_flatMap]
  exact List.append_nil _

/-- A step puts the condition of its call at the end of the walk. -/
theorem terms_of_step {outline next : Outline} {call : Call}
    (stepped : outline.step call = .ok next) :
    next.tree.terms = outline.tree.terms ++ call.term?.toList := by
  cases step_eq_ok_iff.mp stepped with
  | category compatible => exact (List.append_nil _).symm
  | condition formed compatible =>
    rw [terms_push, Call.term?, formed]
    rfl
  | noHosts absent =>
    rw [Call.term?, absent]
    exact (List.append_nil _).symm
  | hosts found =>
    rw [terms_push, Call.term?, found]
    rfl
  | opened =>
    rw [terms_openGroup]
    exact (List.append_nil _).symm
  | @closed frame frames around =>
    have same : Outline.tree ⟨outline.category, frame.add outline.current.close, frames⟩ =
        outline.tree := by
      rw [tree, tree, around, enclose]
    rw [same]
    exact (List.append_nil _).symm
  | declared agrees =>
    rw [terms_tree, terms_tree]
    exact (List.append_nil _).symm

end Outline

end InventoryQuery
