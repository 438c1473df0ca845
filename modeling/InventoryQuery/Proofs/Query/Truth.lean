import InventoryQuery.Proofs.Json.Literal
import InventoryQuery.Proofs.Query.Outcome
/-! # What a query text on the wire says

The service evaluates the nested array that is sent to it. An array that begins with a connective
or with `not` combines the truths of its elements; every other array is a comparison, whose truth an
assignment tells. What a group says is settled by what its members say, also where the group has
one member and no array of its own.
-/

namespace InventoryQuery

/-- Which comparisons hold, by what is compared, the operand and the value. -/
abbrev Assignment := Comparison → Json → String → Bool

/-- The truth of conditions joined by a connective. -/
def Connective.combine : Connective → List Bool → Bool
  | .and, truths => truths.all id
  | .or, truths => truths.any id

theorem mapM_id_map_some {α : Type} (values : List α) : (values.map some).mapM id = some values := by
  induction values with
  | nil => rfl
  | cons value values ih => simp [List.mapM_cons, ih]

namespace Json

variable {assignment : Assignment}

/-- The truth of an array by its first word, from its other elements and their truths. -/
def verdict (assignment : Assignment) (elements : List Json) (truths : List (Option Bool)) :
    String → Option Bool
  | "not" =>
    match truths with
    | [truth] => truth.map not
    | _ => none
  | "and" => (truths.mapM id).map Connective.and.combine
  | "or" => (truths.mapM id).map Connective.or.combine
  | word =>
    match elements with
    | [operand, .string value] =>
      (Comparison.parse? word).map fun comparison => assignment comparison operand value
    | _ => none

mutual

/-- The truth of a condition on the wire; none for a value that is no condition. -/
def truth (assignment : Assignment) : Json → Option Bool
  | .array (.string word :: elements) =>
    verdict assignment elements (truthEach assignment elements) word
  | _ => none
termination_by structural value => value

/-- The truths of some conditions. -/
def truthEach (assignment : Assignment) : List Json → List (Option Bool)
  | [] => []
  | element :: elements => truth assignment element :: truthEach assignment elements
termination_by structural elements => elements

end

theorem truth_compare (comparison : Comparison) (operand : Json) (value : String) :
    (array [.string comparison.text, operand, .string value]).truth assignment =
      some (assignment comparison operand value) := by
  rw [truth]
  cases comparison <;> rfl

theorem truth_not {value : Json} {truth : Bool} (told : value.truth assignment = some truth) :
    (array [.string "not", value]).truth assignment = some !truth := by
  rw [Json.truth, truthEach, told]
  rfl

theorem truth_combine {values : List Json} {truths : List Bool} (connective : Connective)
    (told : truthEach assignment values = truths.map some) :
    (array (.string connective.text :: values)).truth assignment =
      some (connective.combine truths) := by
  rw [truth, told]
  cases connective with
  | and => exact congrArg (Option.map _) (mapM_id_map_some truths)
  | or => exact congrArg (Option.map _) (mapM_id_map_some truths)

/-- Only an array has a truth. -/
theorem array_of_truth {value : Json} {truth : Bool}
    (told : value.truth assignment = some truth) : ∃ elements, value = .array elements := by
  unfold Json.truth at told
  split at told
  · exact ⟨_, rfl⟩
  · cases told

end Json

open Json (Literal separated literal_quote literal_array)

theorem Operand.literal_render (hostKey : String) (operand : Operand) :
    Literal (operand.render hostKey).toList (operand.toJson hostKey) := by
  have pair (word key : String) (same : "\x22" ++ word ++ "\x22" = Json.quote word) :
      Literal ("[\x22" ++ word ++ "\x22, " ++ Json.quote key ++ "]").toList
        (.array [.string word, .string key]) := by
    have literal := literal_array (literal_quote word) (.cons (literal_quote key) .nil)
    rw [← same] at literal
    simpa [separated] using literal
  cases operand with
  | fact key => exact pair "fact" key rfl
  | field name => exact literal_quote name
  | parameter name => exact pair "parameter" name rfl
  | hostKey => exact literal_quote hostKey

namespace Term

theorem toList_renderEach (hostKey : String) (terms : List Term) :
    (renderEach hostKey terms).toList =
      separated (terms.map fun term => (term.render hostKey).toList) := by
  induction terms with
  | nil => rfl
  | cons term terms ih => simp [renderEach, separated, ih]

mutual

theorem literal_render (hostKey : String) : (term : Term) →
    Literal (term.render hostKey).toList (term.toJson hostKey)
  | compare comparison operand value => by
    have literal := literal_array (literal_quote comparison.text)
      (.cons (operand.literal_render hostKey) (.cons (literal_quote value) .nil))
    simpa [render, toJson, separated] using literal
  | not term => by
    have literal := literal_array (literal_quote "not") (.cons (literal_render hostKey term) .nil)
    simpa [render, toJson, separated, show Json.quote "not" = "\x22not\x22" from rfl] using literal
  | combine connective terms => by
    have literal := literal_array (literal_quote connective.text)
      (literal_renderEach hostKey terms)
    simpa [render, toJson, toList_renderEach] using literal

theorem literal_renderEach (hostKey : String) : (terms : List Term) →
    List.Forall₂ Literal (terms.map fun term => (term.render hostKey).toList)
      (toJsonEach hostKey terms)
  | [] => .nil
  | term :: terms => .cons (literal_render hostKey term) (literal_renderEach hostKey terms)

end

end Term

namespace Tree

variable {hostKey : String} {assignment : Assignment} {connective : Connective} {tree : Tree}
  {members : List Tree} {truth : Bool} {truths : List Bool}

/-- A tree has a text, which is read as a condition of a truth. -/
def Means (hostKey : String) (assignment : Assignment) (tree : Tree) (truth : Bool) : Prop :=
  ∃ text value, tree.render hostKey = .ok (some text) ∧ Literal text.toList value ∧
    value.truth assignment = some truth

theorem means_term {term : Term} (told : (term.toJson hostKey).truth assignment = some truth) :
    (Tree.term term).Means hostKey assignment truth :=
  ⟨_, _, rfl, term.literal_render hostKey, told⟩

/-- A group with one member says what the member says. -/
theorem means_single (id : Nat) (connective : Option Connective)
    (means : tree.Means hostKey assignment truth) :
    (group id connective [tree]).Means hostKey assignment truth := by
  obtain ⟨text, value, rendered, literal, told⟩ := means
  refine ⟨text, value, ?_, literal, told⟩
  rw [render_group, List.map_singleton, join_single, rendered]

theorem joinTexts_of_means (connective : Connective)
    (means : List.Forall₂ (Means hostKey assignment) members truths) :
    ∃ joined texts values, joinTexts connective (members.map (render hostKey)) = .ok joined ∧
      joined.toList = separated texts ∧ List.Forall₂ Literal texts values ∧
      Json.truthEach assignment values = truths.map some := by
  induction means with
  | nil => exact ⟨"", [], [], rfl, rfl, .nil, rfl⟩
  | cons first _ ih =>
    obtain ⟨text, value, rendered, literal, told⟩ := first
    obtain ⟨joined, texts, values, done, split, literals, toldEach⟩ := ih
    refine ⟨", " ++ text ++ joined, text.toList :: texts, value :: values, ?_, ?_,
      .cons literal literals, ?_⟩
    · rw [List.map_cons, rendered, joinTexts, done]
      rfl
    · simp [separated, split]
    · rw [Json.truthEach, told, toldEach, List.map_cons]

/-- A group with several members joins what they say by its connective. -/
theorem means_several (id : Nat) (several : 2 ≤ members.length)
    (means : List.Forall₂ (Means hostKey assignment) members truths) :
    (group id (some connective) members).Means hostKey assignment (connective.combine truths) := by
  obtain ⟨joined, texts, values, done, split, literals, told⟩ := joinTexts_of_means connective means
  refine ⟨"[" ++ Json.quote connective.text ++ joined ++ "]",
    .array (.string connective.text :: values), ?_, ?_, Json.truth_combine connective told⟩
  · rw [render_group]
    match members, several with
    | first :: second :: others, _ =>
      rw [List.map_cons, List.map_cons] at done ⊢
      rw [join_several, done]
      rfl
  · have literal := literal_array (literal_quote connective.text) literals
    simpa [split] using literal

end Tree

end InventoryQuery
