import InventoryQuery.Proofs.Query.Step
import InventoryQuery.Proofs.Query.Unfolding
/-! # Refused calls

`Query.Refuses` lists the reasons for which a query refuses a call. Each call is refused for these
reasons and no others, and then the query is as it was (`Outline.Describes.perform_refused`). So the
calls that a run refuses can be left out of it: the others get the same answers and leave the same
query behind.
-/

namespace InventoryQuery

/-- The reasons for which a query refuses a call. A condition that cannot be formed is refused for
that, whatever the category of the query is. Nothing is a reason to refuse hosts or the opening of a
group. -/
inductive Query.Refuses (query : Query) : Call → QueryError → Prop
  | otherCategory {fixed category : Category} (known : query.category = some fixed)
      (differ : fixed ≠ category) :
      Refuses query (.setCategory category) (.categoryConflict fixed category)
  | factWithoutValue {key : String} {comparison : Comparison} {negated : Bool} :
      Refuses query (.addCondition .fact key none comparison negated) (.factWithoutValue key)
  | fact {key value : String} {comparison : Comparison} {negated : Bool} {refusal : QueryError}
      (refused : Refuses query (.setCategory .fact) refusal) :
      Refuses query (.addCondition .fact key (some value) comparison negated) refusal
  | badResourceKey {key : String} {value : Option String} {comparison : Comparison}
      {negated : Bool} {reason : ResourceKey.Fault} (bad : ResourceKey.parse key = .error reason) :
      Refuses query (.addCondition .resource key value comparison negated)
        (.badResourceKey key reason)
  | resource {key : String} {parsed : ResourceKey} {value : Option String}
      {comparison : Comparison} {negated : Bool} {refusal : QueryError}
      (good : ResourceKey.parse key = .ok parsed)
      (refused : Refuses query (.setCategory .resource) refusal) :
      Refuses query (.addCondition .resource key value comparison negated) refusal
  | noOpenGroup (root : query.atRoot = true) : Refuses query .closeGroup .noOpenGroup
  | otherConnective {declared connective : Connective}
      (known : query.current.connective = some declared) (differ : declared ≠ connective) :
      Refuses query (.declare connective) (.connectiveConflict declared connective)

namespace Outline.Describes

variable {outline : Outline} {query : Query}

theorem setCategory_eq_error_iff (describes : outline.Describes query) {category : Category}
    {refusal : QueryError} :
    outline.setCategory category = .error refusal ↔
      query.Refuses (.setCategory category) refusal := by
  rw [setCategory]
  constructor
  · intro refused
    split at refused
    · cases refused
    · next fixed known =>
      split at refused
      · cases refused
      · next differ =>
        cases refused
        exact .otherCategory (describes.category.trans known) differ
  · intro reason
    cases reason with
    | otherCategory known differ =>
      rw [← describes.category, known]
      exact if_neg differ

theorem declare_eq_error_iff (describes : outline.Describes query) {connective : Connective}
    {refusal : QueryError} :
    outline.declare connective = .error refusal ↔
      query.Refuses (.declare connective) refusal := by
  have same : query.current.connective = outline.current.connective := by
    rw [describes.current, Frame.record]
  rw [Outline.declare]
  constructor
  · intro refused
    split at refused
    · cases refused
    · next declared known =>
      split at refused
      · cases refused
      · next differ =>
        cases refused
        exact .otherConnective (same.trans known) differ
  · intro reason
    cases reason with
    | otherConnective known differ =>
      rw [← same, known]
      exact if_neg differ

theorem closeGroup_eq_error_iff (describes : outline.Describes query) {refusal : QueryError} :
    outline.closeGroup = .error refusal ↔ query.Refuses .closeGroup refusal := by
  rw [Outline.closeGroup]
  constructor
  · intro refused
    split at refused
    · next root =>
      cases refused
      exact .noOpenGroup (describes.atRoot_iff.mpr root)
    · cases refused
  · intro reason
    cases reason with
    | noOpenGroup root => rw [describes.atRoot_iff.mp root]

/-- A condition that is formed is refused for its category only. -/
theorem condition_eq_error_iff (describes : outline.Describes query) {category : Category}
    {key : String} {value : Option String} {comparison : Comparison} {negated : Bool} {term : Term}
    (formed : Builder.condition category key value comparison = .ok term) {refusal : QueryError} :
    outline.step (.addCondition category key value comparison negated) = .error refusal ↔
      query.Refuses (.setCategory category) refusal := by
  rw [← describes.setCategory_eq_error_iff, step, formed]
  cases outline.setCategory category <;> simp

/-- A condition is formed before its category is fixed, so what is wrong with it counts first. -/
theorem addCondition_eq_error_iff (describes : outline.Describes query) {category : Category}
    {key : String} {value : Option String} {comparison : Comparison} {negated : Bool}
    {refusal : QueryError} :
    outline.step (.addCondition category key value comparison negated) = .error refusal ↔
      query.Refuses (.addCondition category key value comparison negated) refusal := by
  cases category with
  | fact =>
    cases value with
    | none =>
      constructor
      · intro refused
        cases refused
        exact .factWithoutValue
      · intro reason
        cases reason
        rfl
    | some value =>
      refine (describes.condition_eq_error_iff rfl).trans ⟨.fact, fun reason => ?_⟩
      cases reason with
      | fact refused => exact refused
  | resource =>
    cases parsed : ResourceKey.parse key with
    | error fault =>
      have failed : Builder.condition .resource key value comparison =
          .error (.badResourceKey key fault) := by rw [Builder.condition.eq_def, parsed]
      rw [step, failed]
      constructor
      · intro refused
        cases refused
        exact .badResourceKey parsed
      · intro reason
        cases reason with
        | badResourceKey bad =>
          obtain rfl := Except.error.inj (parsed.symm.trans bad)
          rfl
        | resource good => rw [parsed] at good; cases good
    | ok found =>
      have formed : Builder.condition .resource key value comparison =
          .ok (found.toTerm value comparison) := by rw [Builder.condition.eq_def, parsed]
      refine (describes.condition_eq_error_iff formed).trans ⟨.resource parsed, fun reason => ?_⟩
      cases reason with
      | badResourceKey bad => rw [parsed] at bad; cases bad
      | resource _ refused => exact refused

theorem step_eq_error_iff (describes : outline.Describes query) {call : Call}
    {refusal : QueryError} :
    outline.step call = .error refusal ↔ query.Refuses call refusal := by
  cases call with
  | setCategory category => exact describes.setCategory_eq_error_iff
  | addCondition category key value comparison negated =>
    exact describes.addCondition_eq_error_iff
  | addHosts hosts negated =>
    constructor
    · intro refused
      rw [step] at refused
      split at refused <;> cases refused
    · intro reason
      cases reason
  | openGroup =>
    constructor
    · intro refused
      cases refused
    · intro reason
      cases reason
  | closeGroup => exact describes.closeGroup_eq_error_iff
  | declare connective => exact describes.declare_eq_error_iff

theorem perform_eq_error_iff (describes : outline.Describes query) {call : Call}
    {refusal : QueryError} :
    (query.perform call).1 = .error refusal ↔ query.Refuses call refusal := by
  rw [← describes.step_eq_error_iff]
  cases stepped : outline.step call with
  | error cause =>
    rw [describes.perform_of_error stepped]
    simp
  | ok next =>
    rw [(describes.perform_of_ok stepped).1]
    simp

theorem perform_refused (describes : outline.Describes query) {call : Call} {refusal : QueryError}
    (refused : (query.perform call).1 = .error refusal) : (query.perform call).2 = query := by
  have stepped := describes.step_eq_error_iff.mpr (describes.perform_eq_error_iff.mp refused)
  rw [describes.perform_of_error stepped]

end Outline.Describes

/-- The calls that were not refused. -/
def acceptedCalls (calls : List Call) (answers : List Answer) : List Call :=
  ((calls.zip answers).filter (·.2.isOk)).map (·.1)

theorem acceptedCalls_error (call : Call) (calls : List Call) (refusal : QueryError)
    (answers : List Answer) :
    acceptedCalls (call :: calls) (.error refusal :: answers) = acceptedCalls calls answers := rfl

theorem acceptedCalls_ok (call : Call) (calls : List Call) (told : Option Nat)
    (answers : List Answer) :
    acceptedCalls (call :: calls) (.ok told :: answers) =
      call :: acceptedCalls calls answers := rfl

/-- Calls that are refused can be left out of a run. -/
theorem Outline.Describes.run_acceptedCalls {outline : Outline} {query : Query}
    (describes : outline.Describes query) (calls : List Call) :
    query.run (acceptedCalls calls (query.run calls).1) =
      ((query.run calls).1.filter Except.isOk, (query.run calls).2) := by
  induction calls generalizing outline query with
  | nil => rfl
  | cons call calls ih =>
    have rest := ih (describes.perform call)
    rw [Query.run_cons]
    cases answered : (query.perform call).1 with
    | error refusal =>
      -- the calls that follow meet the query that the refused call met
      rw [describes.perform_refused answered] at rest ⊢
      rw [acceptedCalls_error, rest]
      rfl
    | ok told =>
      rw [acceptedCalls_ok, Query.run_cons, answered, rest]
      rfl

/-- On every query that calls built, each call is refused exactly for the reasons of `Refuses`, and
a refused call changes nothing. So whatever calls are made, the same calls without the refused ones
are all accepted, get the same answers and leave the same query behind. -/
theorem refused_calls_leave_no_trace (history : List Call) :
    (∀ call refusal, ((Query.ofCalls history).perform call).1 = .error refusal ↔
        (Query.ofCalls history).Refuses call refusal) ∧
      (∀ call refusal, ((Query.ofCalls history).perform call).1 = .error refusal →
        ((Query.ofCalls history).perform call).2 = Query.ofCalls history) ∧
      ∀ calls, let ran := (Query.ofCalls history).run calls
        (Query.ofCalls history).run (acceptedCalls calls ran.1) =
          (ran.1.filter Except.isOk, ran.2) := by
  have describes := Outline.describes_ofCalls history
  exact ⟨fun _ _ => describes.perform_eq_error_iff, fun _ _ => describes.perform_refused,
    describes.run_acceptedCalls⟩

end InventoryQuery
