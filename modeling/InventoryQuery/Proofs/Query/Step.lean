import InventoryQuery.Proofs.Query.Replay
/-! # What a step does

`Outline.Step` tells everything that a call can do when it is not refused, one rule for each way
to go on. What a run keeps is read off these rules: here, that a category once fixed stays.
-/

namespace InventoryQuery

/-- Two categories, of which each may be open, can be those of one query. -/
def Category.Compatible (first second : Option Category) : Prop :=
  ∀ c ∈ first, ∀ c' ∈ second, c = c'

namespace Category

variable {first second : Option Category}

@[simp]
theorem compatible_none (first : Option Category) : Compatible first none := by
  intro c _ c' absent
  cases absent

@[simp]
theorem none_compatible (second : Option Category) : Compatible none second := by
  intro c absent
  cases absent

theorem compatible_some_iff {c c' : Category} : Compatible (some c) (some c') ↔ c = c' := by
  simp [Compatible]

/-- Categories that are not compatible are both fixed. -/
theorem exists_of_not_compatible (conflict : ¬Compatible first second) :
    ∃ c c', first = some c ∧ second = some c' ∧ c ≠ c' := by
  match first, second with
  | none, _ => exact absurd (none_compatible _) conflict
  | some _, none => exact absurd (compatible_none _) conflict
  | some c, some c' => exact ⟨c, c', rfl, rfl, fun same => conflict (compatible_some_iff.mpr same)⟩

/-- Fixing a category that goes with the fixed one changes nothing. -/
theorem Compatible.or_some {c : Category} (compatible : Compatible first (some c)) :
    first.or (some c) = some c := by
  cases first with
  | none => rfl
  | some c' => rw [Option.some_or, compatible_some_iff.mp compatible]

end Category

/-- The category that a call fixes. -/
def Call.category? : Call → Option Category
  | setCategory category => some category
  | addCondition category .. => some category
  | _ => none

namespace Outline

open Category (Compatible)

variable {outline next : Outline} {call : Call} {calls : List Call}

/-- A call goes on and leaves an outline behind. -/
inductive Step (outline : Outline) : Call → Outline → Prop
  | category {category : Category} (compatible : Compatible outline.category (some category)) :
      Step outline (.setCategory category) { outline with category := some category }
  | condition {category : Category} {key : String} {value : Option String}
      {comparison : Comparison} {negated : Bool} {term : Term}
      (formed : Builder.condition category key value comparison = .ok term)
      (compatible : Compatible outline.category (some category)) :
      Step outline (.addCondition category key value comparison negated)
        (push { outline with category := some category } (.term (Term.negateIf negated term)))
  | noHosts {hosts : List String} {negated : Bool}
      (absent : HostPattern.anyOf? hosts negated = none) :
      Step outline (.addHosts hosts negated) outline
  | hosts {hosts : List String} {negated : Bool} {term : Term}
      (found : HostPattern.anyOf? hosts negated = some term) :
      Step outline (.addHosts hosts negated) (outline.push (.term term))
  | opened : Step outline .openGroup outline.openGroup
  | closed {frame : Frame} {frames : List Frame} (around : outline.around = frame :: frames) :
      Step outline .closeGroup ⟨outline.category, frame.add outline.current.close, frames⟩
  | declared {connective : Connective}
      (agrees : ∀ declared ∈ outline.current.connective, declared = connective) :
      Step outline (.declare connective)
        { outline with current := { outline.current with connective := some connective } }

theorem setCategory_eq_ok_iff {category : Category} :
    outline.setCategory category = .ok next ↔
      Compatible outline.category (some category) ∧
        next = { outline with category := some category } := by
  obtain ⟨fixed, current, around⟩ := outline
  cases fixed with
  | none =>
    rw [setCategory, Except.ok.injEq, eq_comm]
    simp
  | some known =>
    simp only [setCategory, Category.compatible_some_iff]
    by_cases same : known = category
    · rw [if_pos same, Except.ok.injEq, eq_comm, same]
      simp
    · rw [if_neg same]
      simp [same]

theorem declare_eq_ok_iff {connective : Connective} :
    outline.declare connective = .ok next ↔
      (∀ declared ∈ outline.current.connective, declared = connective) ∧
        next = { outline with current := { outline.current with connective := some connective } } := by
  obtain ⟨category, ⟨id, declared, members⟩, around⟩ := outline
  cases declared with
  | none =>
    rw [declare, Except.ok.injEq, eq_comm]
    simp
  | some known =>
    simp only [declare, Option.mem_def, Option.some.injEq, forall_eq']
    by_cases same : known = connective
    · rw [if_pos same, Except.ok.injEq, eq_comm, same]
      simp
    · rw [if_neg same]
      simp [same]

/-- The steps are what the calls that are not refused do. -/
theorem step_eq_ok_iff : outline.step call = .ok next ↔ outline.Step call next := by
  constructor
  · intro stepped
    cases call with
    | setCategory category =>
      obtain ⟨compatible, rfl⟩ := setCategory_eq_ok_iff.mp stepped
      exact .category compatible
    | addCondition category key value comparison negated =>
      rw [step] at stepped
      split at stepped
      · cases stepped
      · next term formed =>
        split at stepped
        · cases stepped
        · next between set =>
          obtain ⟨compatible, rfl⟩ := setCategory_eq_ok_iff.mp set
          cases stepped
          exact .condition formed compatible
    | addHosts hosts negated =>
      rw [step] at stepped
      split at stepped
      · next absent =>
        cases stepped
        exact .noHosts absent
      · next term found =>
        cases stepped
        exact .hosts found
    | openGroup =>
      cases stepped
      exact .opened
    | closeGroup =>
      rw [step, closeGroup] at stepped
      split at stepped
      · cases stepped
      · next frame frames around =>
        cases stepped
        exact .closed around
    | declare connective =>
      obtain ⟨agrees, rfl⟩ := declare_eq_ok_iff.mp stepped
      exact .declared agrees
  · intro stepped
    cases stepped with
    | category compatible => exact setCategory_eq_ok_iff.mpr ⟨compatible, rfl⟩
    | condition formed compatible =>
      rw [step, formed]
      simp only [setCategory_eq_ok_iff.mpr ⟨compatible, rfl⟩]
    | noHosts absent => rw [step, absent]
    | hosts found => rw [step, found]
    | opened => rfl
    | closed around => rw [step, closeGroup, around]
    | declared agrees => exact declare_eq_ok_iff.mpr ⟨agrees, rfl⟩

/-- A step fixes the category of its call, which goes with the one that is fixed. -/
theorem category_of_step (stepped : outline.step call = .ok next) :
    Compatible outline.category call.category? ∧
      next.category = outline.category.or call.category? := by
  cases step_eq_ok_iff.mp stepped with
  | category compatible => exact ⟨compatible, compatible.or_some.symm⟩
  | condition formed compatible => exact ⟨compatible, compatible.or_some.symm⟩
  | noHosts | hosts | opened | closed | declared =>
    exact ⟨Category.compatible_none _, Option.or_none.symm⟩

theorem category_kept_of_step {category : Category} (fixed : outline.category = some category)
    (stepped : outline.step call = .ok next) : next.category = some category := by
  rw [(category_of_step stepped).2, fixed, Option.some_or]

/-- A category once fixed stays, also where calls are refused. -/
theorem category_run {category : Category} (fixed : outline.category = some category)
    (calls : List Call) : (outline.run calls).category = some category := by
  induction calls generalizing outline with
  | nil => exact fixed
  | cons call calls ih =>
    have kept : (outline.perform call).category = some category := by
      rw [perform]
      cases stepped : outline.step call with
      | error refusal => exact fixed
      | ok next => exact category_kept_of_step fixed stepped
    exact ih kept

theorem category_kept_of_replay {category : Category} (fixed : outline.category = some category)
    (replayed : outline.replay calls = .ok next) : next.category = some category := by
  induction calls generalizing outline with
  | nil =>
    cases replayed
    exact fixed
  | cons call calls ih =>
    obtain ⟨between, stepped, more⟩ := replay_cons_eq_ok replayed
    exact ih (category_kept_of_step fixed stepped) more

/-- What goes with the category after a replay goes with the category before it. -/
theorem compatible_of_replay {category : Option Category}
    (replayed : outline.replay calls = .ok next) (compatible : Compatible category next.category) :
    Compatible category outline.category := by
  intro c present c' fixed
  exact compatible c present c' (category_kept_of_replay fixed replayed)

end Outline

end InventoryQuery
