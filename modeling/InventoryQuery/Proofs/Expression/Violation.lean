import InventoryQuery.Proofs.Expression.Demand
import InventoryQuery.Proofs.Expression.Readiness
/-! # The first violation of an accepted text

Replaying the calls of an accepted text goes as far as checking what its expression asks for, one
demand after the other: the frames of the groups hold the first connectives, and the category stays
once it is fixed. So the query of the text is refused for the first demand that is not met, from left
to right, and exists if all are met.
-/

namespace InventoryQuery

namespace Outline

variable {outline : Outline}

/-- The category after some calls is what is left of some demands, if it is so for the calls up to
some point and for the calls from there on. -/
theorem category_append {calls others : List Call} {demands rest : List Demand}
    (head : (outline.replay calls).map category = demands.foldlM Demand.check outline.category)
    (tail : ∀ between, outline.replay calls = .ok between →
      (between.replay others).map category = rest.foldlM Demand.check between.category) :
    (outline.replay (calls ++ others)).map category =
      (demands ++ rest).foldlM Demand.check outline.category := by
  rw [Outline.replay_append, List.foldlM_append, ← head]
  cases replayed : outline.replay calls with
  | error refusal => rfl
  | ok between => exact tail between replayed

theorem category_cons {call : Call} {others : List Call} {demands rest : List Demand}
    (head : (outline.step call).map category = demands.foldlM Demand.check outline.category)
    (tail : ∀ between, outline.step call = .ok between →
      (between.replay others).map category = rest.foldlM Demand.check between.category) :
    (outline.replay (call :: others)).map category =
      (demands ++ rest).foldlM Demand.check outline.category := by
  rw [← Outline.replay_single] at head
  have tail' : ∀ between, outline.replay [call] = .ok between →
      (between.replay others).map category = rest.foldlM Demand.check between.category := by
    rwa [Outline.replay_single]
  exact category_append head tail'

theorem category_setCategory (outline : Outline) (category : Category) :
    (outline.setCategory category).map Outline.category =
      Demand.settle outline.category category := by
  obtain ⟨fixed, current, around⟩ := outline
  cases fixed with
  | none => rfl
  | some known =>
    simp only [setCategory, Demand.settle]
    split <;> rfl

theorem category_declare (outline : Outline) (connective : Connective) :
    (outline.declare connective).map category =
      (Demand.connective (outline.current.connective.getD connective) connective).check
        outline.category := by
  obtain ⟨fixed, ⟨id, declared, members⟩, around⟩ := outline
  cases declared with
  | none => simp [declare, Demand.check, Except.map]
  | some known =>
    simp only [declare, Demand.check, Option.getD_some]
    split <;> rfl

/-- Adding a condition asks for its category and a key for it. -/
theorem category_addCondition (outline : Outline) {category : Category} {key : String}
    {value : Option String} {comparison : Comparison} {negated : Bool}
    (valued : category = .fact → value ≠ none) :
    (outline.step (.addCondition category key value comparison negated)).map Outline.category =
      (Demand.condition category key).check outline.category := by
  have added {term : Term} (formed : Builder.condition category key value comparison = .ok term) :
      (outline.step (.addCondition category key value comparison negated)).map Outline.category =
        Demand.settle outline.category category := by
    rw [step, formed, ← category_setCategory]
    dsimp only
    cases outline.setCategory category <;> rfl
  by_cases formed : Demand.Formed category key
  · rw [Demand.check, if_pos formed]
    cases category with
    | fact =>
      cases value with
      | none => exact absurd rfl (valued rfl)
      | some value => exact added rfl
    | resource =>
      obtain ⟨parsed, read⟩ := (formed rfl).exists_parse
      exact added (by rw [Builder.condition, read])
  · obtain ⟨rfl, malformed⟩ := Classical.not_imp.mp formed
    rw [Demand.check, if_neg formed, step, Builder.condition,
      ResourceKey.parse_eq_error malformed]
    rfl

end Outline

namespace Grammar

open Outline

variable {keyChar : Char → Prop} {text rest : List Char}

/-- What a phrase asks for, behind the first connective of its level if there is one. -/
def Phrase.demands (first : Option Connective) : Phrase → List Demand
  | .item single => single.demands
  | .others pairs => Item.demandsOthers first pairs

theorem Atom.category_step {atom : InventoryQuery.Atom} (derived : Atom keyChar text rest atom)
    (negated : Bool) (outline : Outline) :
    (outline.step (atom.call negated)).map category =
      atom.demands.foldlM Demand.check outline.category := by
  cases derived with
  | hosts listed =>
    rw [InventoryQuery.Atom.call, step]
    split <;> rfl
  | resource named =>
    rw [InventoryQuery.Atom.demands, Demand.foldlM_single]
    exact category_addCondition outline (by simp)
  | tested named compared =>
    rw [InventoryQuery.Atom.demands, Demand.foldlM_single]
    exact category_addCondition outline (by simp)

/-- Replaying the calls of a phrase goes as far as checking what the phrase asks for, with the same
category or the same refusal in the end. -/
theorem Derives.category_replay {phrase : Phrase} (derived : Derives keyChar phrase text rest)
    (outline : Outline) :
    (outline.replay phrase.calls).map category =
      (phrase.demands outline.current.connective).foldlM Demand.check outline.category := by
  induction derived generalizing outline with
  | atom plain =>
    rw [Phrase.calls, Item.calls, Outline.replay_single]
    exact plain.category_step false outline
  | negated spelled spacing apart plain =>
    rw [Phrase.calls, Item.calls, Outline.replay_single]
    exact plain.category_step true outline
  | @group _ _ _ _ _ first others spacing head tail spacing' ihHead ihTail =>
    rw [Phrase.calls, Item.calls, Phrase.demands, Item.demands]
    refine @category_cons _ _ _ [] _ ?_ ?_
    · rfl
    · intro opened stepped
      cases stepped
      apply category_append (ihHead outline.openGroup)
      intro between replayed
      obtain ⟨tree, gains, _⟩ := head.replay replayed
      -- a connective of the group is that of its own items, which are still to come
      have undeclared : between.current.connective = none := gains.connective
      rw [← List.append_nil (Item.demandsOthers none others), ← undeclared]
      apply category_append (ihTail between)
      intro after replayed'
      obtain ⟨trees, _, around, _⟩ := tail.replay replayed'
      rw [gains.around] at around
      rw [Outline.replay_single, step, closeGroup, around]
      rfl
  | done => rfl
  | @next _ _ _ _ _ _ connective item others spacing apart spelled spacing' apart' head tail ihHead
      ihTail =>
    rw [Phrase.calls, Item.callsOthers, Phrase.demands, Item.demandsOthers]
    refine @category_cons _ _ _ [_] _ ?_ ?_
    · rw [Demand.foldlM_single]
      exact category_declare outline connective
    · intro between stepped
      obtain ⟨agrees, rfl⟩ := declare_eq_ok_iff.mp stepped
      have first : outline.current.connective.getD connective = connective := by
        cases declared : outline.current.connective with
        | none => rfl
        | some known => exact agrees known declared
      rw [first]
      apply category_append (ihHead _)
      intro after replayed
      obtain ⟨tree, gains, _⟩ := head.replay replayed
      have declared : after.current.connective = some connective := gains.connective
      rw [← declared]
      exact ihTail after

variable {text : String} {expression : Expression}

/-- Reading an accepted text goes as far as checking what its expression asks for. -/
theorem Accepts.category_parse (accepted : Accepts KeyChar text expression) :
    (Query.parse text).map Query.category = expression.demands.foldlM Demand.check none := by
  have checked : (Outline.empty.replay expression.calls).map category =
      expression.demands.foldlM Demand.check none := by
    obtain ⟨_, _, _, _, _, _, head, more, _⟩ := accepted
    apply category_append (head.category_replay Outline.empty)
    intro between replayed
    obtain ⟨tree, gains, _⟩ := head.replay replayed
    have undeclared : between.current.connective = none := gains.connective
    rw [← undeclared]
    exact more.category_replay between
  rw [accepted.parse_eq, ← checked]
  cases outlined : Outline.empty.replay expression.calls with
  | error refusal =>
    rw [Outline.describes_empty.replay_of_error outlined]
    rfl
  | ok next =>
    obtain ⟨query, done, describes⟩ := Outline.describes_empty.replay_of_ok outlined
    rw [done]
    exact congrArg Except.ok describes.category

theorem Accepts.parse_eq_error_iff (accepted : Accepts KeyChar text expression)
    {refusal : QueryError} :
    Query.parse text = .error refusal ↔ Demand.FirstViolation expression.demands refusal := by
  rw [← Demand.foldlM_check_eq_error_iff, ← accepted.category_parse]
  cases Query.parse text <;> simp [Except.map]

theorem Accepts.met_of_parse (accepted : Accepts KeyChar text expression) {query : Query}
    (parsed : Query.parse text = .ok query) :
    Demand.Met expression.demands ∧ query.category = Demand.fixedBy expression.demands := by
  have checked := accepted.category_parse
  rw [parsed] at checked
  exact Demand.foldlM_check_eq_ok_iff.mp checked.symm

theorem Accepts.exists_parse_iff (accepted : Accepts KeyChar text expression) :
    (∃ query, Query.parse text = .ok query) ↔ Demand.Met expression.demands := by
  constructor
  · rintro ⟨query, parsed⟩
    exact (accepted.met_of_parse parsed).1
  · intro met
    have checked := accepted.category_parse
    rw [Demand.foldlM_check_eq_ok_iff.mpr ⟨met, rfl⟩] at checked
    cases parsed : Query.parse text with
    | error refusal =>
      rw [parsed] at checked
      cases checked
    | ok query => exact ⟨query, rfl⟩

end Grammar

open Grammar

/-- An accepted text has a query exactly if on each level the connectives are the same, every
resource key is well formed and there are not conditions on facts and on resources. Else it is
refused for the first violation from left to right. The category of the query is that of the
conditions, if there are any. -/
theorem parse_first_violation {text : String} {expression : Expression}
    (accepted : Accepts KeyChar text expression) :
    ((∃ query, Query.parse text = .ok query) ↔
      (∀ level ∈ expression.levels, Connective.Uniform level) ∧
        (∀ key, .condition .resource key ∈ expression.demands → ResourceKey.WellFormed key) ∧
        ¬((∃ key, .condition .fact key ∈ expression.demands) ∧
          ∃ key, .condition .resource key ∈ expression.demands)) ∧
      (∀ refusal, Query.parse text = .error refusal ↔
        Demand.FirstViolation expression.demands refusal) ∧
      ∀ query, Query.parse text = .ok query → ∀ category,
        query.category = some category ↔
          ∃ key, .condition category key ∈ expression.demands := by
  refine ⟨?_, fun refusal => accepted.parse_eq_error_iff, fun query parsed category => ?_⟩
  · rw [accepted.exists_parse_iff, Demand.met_iff, expression.agreed_demands_iff]
  · obtain ⟨met, known⟩ := accepted.met_of_parse parsed
    rw [known]
    constructor
    · exact Demand.exists_condition_of_fixedBy
    · rintro ⟨key, present⟩
      exact met.fixedBy_eq present

/-- A connective in parentheses is no matter for the one after them; this comes before a key without
a type. -/
theorem parse_first_violation_connective :
    Query.parse "F:a=b or (F:c=d and F:e=f) and R:%x" =
      .error (.connectiveConflict .or .and) := by
  have accepted : Accepts KeyChar "F:a=b or (F:c=d and F:e=f) and R:%x"
      ⟨.atom false (.condition .fact "a" (some (.equal, "b"))),
        [(.or, .group (.atom false (.condition .fact "c" (some (.equal, "d"))))
          [(.and, .atom false (.condition .fact "e" (some (.equal, "f"))))]),
        (.and, .atom false (.condition .resource "%x" none))]⟩ :=
    parse_sound (by rfl)
  have met : Demand.Met [.condition .fact "a", .connective .or .or, .condition .fact "c",
      .connective .and .and, .condition .fact "e"] := by
    refine Demand.met_iff.mpr ⟨?_, by simp, by simp⟩
    rintro first here present
    cases first <;> cases here <;> simp at present ⊢
  apply ((parse_first_violation accepted).2.1 _).mpr
  exact ⟨_, .connective .or .and, [.condition .resource "%x"], rfl, met, .connective (by decide)⟩

end InventoryQuery
