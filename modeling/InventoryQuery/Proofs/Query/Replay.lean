import InventoryQuery.Proofs.Query.Simulation
/-! # Replaying calls

A replay makes calls in order up to the first that is refused, whereas a run goes on. Both can be
followed on outlines.
-/

namespace InventoryQuery

/-- The refusals of calls. -/
inductive QueryError.OfCall : QueryError → Prop
  | categoryConflict (current requested : Category) : OfCall (.categoryConflict current requested)
  | badResourceKey (key : String) (reason : ResourceKey.Fault) :
      OfCall (.badResourceKey key reason)
  | factWithoutValue (key : String) : OfCall (.factWithoutValue key)
  | noOpenGroup : OfCall .noOpenGroup
  | connectiveConflict (declared requested : Connective) :
      OfCall (.connectiveConflict declared requested)

namespace Query

/-- Makes some calls in order, up to the first that is refused. -/
def replay (query : Query) : List Call → Except QueryError Query
  | [] => .ok query
  | call :: calls =>
    match query.perform call with
    | (.ok _, next) => next.replay calls
    | (.error refusal, _) => .error refusal

theorem replay_append (query : Query) (calls others : List Call) :
    query.replay (calls ++ others) =
      (query.replay calls).bind fun next => next.replay others := by
  induction calls generalizing query with
  | nil => rfl
  | cons call calls ih =>
    rw [List.cons_append, replay, replay]
    split
    · exact ih _
    · rfl

theorem replay_cons_of_ok {query : Query} {call : Call} {told : Option Nat}
    (accepted : (query.perform call).1 = .ok told) (calls : List Call) :
    query.replay (call :: calls) = (query.perform call).2.replay calls := by
  rw [replay]
  split
  · next performed => rw [performed]
  · next performed => rw [performed] at accepted; cases accepted

end Query

namespace Outline

/-- The outline after some calls, or the first refusal. -/
def replay (outline : Outline) : List Call → Except QueryError Outline
  | [] => .ok outline
  | call :: calls => (outline.step call).bind fun next => next.replay calls

theorem replay_append (outline : Outline) (calls others : List Call) :
    outline.replay (calls ++ others) =
      (outline.replay calls).bind fun next => next.replay others := by
  induction calls generalizing outline with
  | nil => rfl
  | cons call calls ih =>
    rw [List.cons_append, replay, replay]
    cases outline.step call with
    | error refusal => rfl
    | ok next => exact ih next

theorem replay_cons_eq_ok {outline next : Outline} {call : Call} {calls : List Call}
    (replayed : outline.replay (call :: calls) = .ok next) :
    ∃ between, outline.step call = .ok between ∧ between.replay calls = .ok next := by
  rw [replay] at replayed
  cases stepped : outline.step call with
  | error refusal => rw [stepped] at replayed; cases replayed
  | ok between => exact ⟨between, rfl, by rwa [stepped] at replayed⟩

theorem replay_append_eq_ok {outline next : Outline} {calls others : List Call}
    (replayed : outline.replay (calls ++ others) = .ok next) :
    ∃ between, outline.replay calls = .ok between ∧ between.replay others = .ok next := by
  rw [replay_append] at replayed
  cases done : outline.replay calls with
  | error refusal => rw [done] at replayed; cases replayed
  | ok between => exact ⟨between, rfl, by rwa [done] at replayed⟩

theorem Describes.replay_of_ok {outline next : Outline} {query : Query}
    (describes : outline.Describes query) {calls : List Call}
    (replayed : outline.replay calls = .ok next) :
    ∃ query', query.replay calls = .ok query' ∧ next.Describes query' := by
  induction calls generalizing outline query with
  | nil =>
    cases replayed
    exact ⟨query, rfl, describes⟩
  | cons call calls ih =>
    obtain ⟨between, stepped, more⟩ := replay_cons_eq_ok replayed
    obtain ⟨told, after⟩ := describes.perform_of_ok stepped
    obtain ⟨query', done, last⟩ := ih after more
    refine ⟨query', ?_, last⟩
    rw [Query.replay_cons_of_ok told]
    exact done

theorem Describes.replay_of_error {outline : Outline} {query : Query}
    (describes : outline.Describes query) {calls : List Call} {refusal : QueryError}
    (refused : outline.replay calls = .error refusal) : query.replay calls = .error refusal := by
  induction calls generalizing outline query with
  | nil => cases refused
  | cons call calls ih =>
    rw [replay] at refused
    cases stepped : outline.step call with
    | error refusal' =>
      rw [stepped] at refused
      cases refused
      rw [Query.replay, describes.perform_of_error stepped]
    | ok between =>
      rw [stepped] at refused
      obtain ⟨told, after⟩ := describes.perform_of_ok stepped
      rw [Query.replay_cons_of_ok told]
      exact ih after refused

/-- A replay that succeeds on the arena succeeds on the outline. -/
theorem Describes.exists_of_replay {outline : Outline} {query query' : Query}
    (describes : outline.Describes query) {calls : List Call}
    (replayed : query.replay calls = .ok query') :
    ∃ next, outline.replay calls = .ok next ∧ next.Describes query' := by
  cases outlined : outline.replay calls with
  | error refusal =>
    rw [describes.replay_of_error outlined] at replayed
    cases replayed
  | ok next =>
    obtain ⟨after, done, describes'⟩ := describes.replay_of_ok outlined
    obtain rfl := Except.ok.inj (replayed.symm.trans done)
    exact ⟨next, rfl, describes'⟩

theorem setCategory_refusal {outline : Outline} {category : Category} {refusal : QueryError}
    (refused : outline.setCategory category = .error refusal) : refusal.OfCall := by
  rw [setCategory] at refused
  split at refused
  · cases refused
  · split at refused
    · cases refused
    · cases refused
      exact .categoryConflict _ _

theorem condition_refusal {category : Category} {key : String} {value : Option String}
    {comparison : Comparison} {refusal : QueryError}
    (refused : Builder.condition category key value comparison = .error refusal) :
    refusal.OfCall := by
  unfold Builder.condition at refused
  split at refused
  · split at refused
    · cases refused
    · cases refused
      exact .factWithoutValue _
  · split at refused
    · cases refused
    · cases refused
      exact .badResourceKey _ _

theorem step_refusal {outline : Outline} {call : Call} {refusal : QueryError}
    (refused : outline.step call = .error refusal) : refusal.OfCall := by
  cases call with
  | setCategory category => exact setCategory_refusal refused
  | addCondition category key value comparison negated =>
    rw [step] at refused
    split at refused
    · next conditionRefused =>
      cases refused
      exact condition_refusal conditionRefused
    · split at refused
      · next categoryRefused =>
        cases refused
        exact setCategory_refusal categoryRefused
      · cases refused
  | addHosts hosts negated =>
    rw [step] at refused
    split at refused <;> cases refused
  | openGroup => cases refused
  | closeGroup =>
    rw [step, closeGroup] at refused
    split at refused
    · cases refused
      exact .noOpenGroup
    · cases refused
  | declare connective =>
    rw [step, declare] at refused
    split at refused
    · cases refused
    · split at refused
      · cases refused
      · cases refused
        exact .connectiveConflict _ _

theorem replay_refusal {outline : Outline} {calls : List Call} {refusal : QueryError}
    (refused : outline.replay calls = .error refusal) : refusal.OfCall := by
  induction calls generalizing outline with
  | nil => cases refused
  | cons call calls ih =>
    rw [replay] at refused
    cases stepped : outline.step call with
    | error refusal' =>
      rw [stepped] at refused
      cases refused
      exact step_refusal stepped
    | ok next =>
      rw [stepped] at refused
      exact ih refused

end Outline

open Outline in
/-- Only calls refuse in a replay on the query without any condition. -/
theorem replay_empty_refusal {calls : List Call} {refusal : QueryError}
    (refused : Query.empty.replay calls = .error refusal) : refusal.OfCall := by
  cases replayed : empty.replay calls with
  | error refusal' =>
    rw [describes_empty.replay_of_error replayed] at refused
    cases refused
    exact replay_refusal replayed
  | ok next =>
    obtain ⟨query, done, _⟩ := describes_empty.replay_of_ok replayed
    rw [done] at refused
    cases refused

end InventoryQuery
