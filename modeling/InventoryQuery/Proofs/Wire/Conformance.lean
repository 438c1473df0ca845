import InventoryQuery.Proofs.Query.Chronology
import InventoryQuery.Proofs.Query.Step
import InventoryQuery.Proofs.Wire.Grammar
/-! # What is sent keeps to the grammar

Every condition in a query goes with the category of the query: a call that adds one fixes the
category in the same step, and a category once fixed stays. So whatever calls are made, the text of
a query is read as an array of the grammar for its category.
-/

namespace InventoryQuery

/-- The condition that a call adds goes with the category that the call fixes. -/
theorem Call.wire_term? {call : Call} {added : Term} (hostKey : String)
    (adds : call.term? = some added) :
    Wire.Signed hostKey call.category? (added.toJson hostKey) := by
  cases term?_eq_some_iff.mp adds with
  | condition negated formed => exact Term.wire_negateIf negated (wire_condition formed)
  | hosts negated named => exact HostPattern.wire_hosts negated named

namespace Outline

variable {outline next : Outline} {call : Call}

/-- Every condition of an outline goes with its category. -/
def Conforms (outline : Outline) : Prop :=
  ∀ hostKey, ∀ t ∈ outline.tree.terms, Wire.Signed hostKey outline.category (t.toJson hostKey)

theorem conforms_empty : empty.Conforms := by
  intro hostKey t present
  cases present

theorem Conforms.step (conforms : outline.Conforms) (stepped : outline.step call = .ok next) :
    next.Conforms := by
  intro hostKey t present
  obtain ⟨compatible, category⟩ := category_of_step stepped
  rw [terms_of_step stepped, List.mem_append, Option.mem_toList] at present
  rcases present with old | new
  · refine (conforms hostKey t old).mono ?_
    intro c fixed
    rw [category, fixed, Option.some_or]
  · refine (Call.wire_term? hostKey new).mono ?_
    intro c fixes
    rw [category]
    cases known : outline.category with
    | none => exact fixes
    | some c' =>
      have same := compatible c' known c fixes
      rw [Option.some_or, same]

theorem Conforms.perform (conforms : outline.Conforms) (call : Call) :
    (outline.perform call).Conforms := by
  rw [Outline.perform]
  cases stepped : outline.step call with
  | error refusal => exact conforms
  | ok next => exact conforms.step stepped

/-- A run keeps the conditions within the category. -/
theorem Conforms.run (conforms : outline.Conforms) (calls : List Call) :
    (outline.run calls).Conforms := by
  induction calls generalizing outline with
  | nil => exact conforms
  | cons call calls ih => exact ih (conforms.perform call)

end Outline

/-- Whatever calls are made: a text that is sent is read as an array of the grammar for the category
of the query, the conditions in all groups go with this category, and once it is fixed it stays the
category whatever calls follow. -/
theorem ofCalls_in_grammar (calls : List Call) :
    (∀ hostKey text, (Query.ofCalls calls).render hostKey = .ok (some text) →
        ∃ value, Json.parseUnlimited text = .ok value ∧
          Wire.Condition hostKey (Query.ofCalls calls).category value) ∧
      (∀ hostKey, ∀ group ∈ (Query.ofCalls calls).groups, ∀ t, .term t ∈ group.tokens →
        ∃ value, Json.parseUnlimited (t.render hostKey) = .ok value ∧
          Wire.Signed hostKey (Query.ofCalls calls).category value) ∧
      ∀ category, (Query.ofCalls calls).category = some category →
        ∀ more, ((Query.ofCalls calls).run more).2.category = some category := by
  have describes := Outline.describes_ofCalls calls
  have conforms := Outline.conforms_empty.run calls
  rw [describes.category]
  refine ⟨?_, ?_, ?_⟩
  · intro hostKey text rendered
    rw [describes.render_eq] at rendered
    obtain ⟨value, literal, condition⟩ := Tree.render_wire _
      (fun t met => conforms hostKey t (Tree.mem_terms_iff.mpr met)) rendered
    exact ⟨value, literal.parse, condition⟩
  · intro hostKey group present t held
    have signed := conforms hostKey t (describes.mem_terms_iff.mpr ⟨group, present, held⟩)
    exact ⟨t.toJson hostKey, (t.literal_render hostKey).parse, signed⟩
  · intro category fixed more
    rw [(describes.run more).category]
    exact Outline.category_run fixed more

end InventoryQuery
