import InventoryQuery.Proofs.Query.Truth
/-! # Texts of conditions

The text of a condition is read as its nested array, and the condition is found again in this array,
but for the host key: what stands for it (`Term.resolve`) cannot be told from a field of its name. So
no key and no value of a condition, whatever its characters are, can make the text of another one.
-/

namespace InventoryQuery

/-- An operand with a field for the host key. -/
def Operand.resolve (hostKey : String) : Operand → Operand
  | .hostKey => .field hostKey
  | operand => operand

/-- The operand of a value on the wire. -/
def Operand.ofJson? : Json → Option Operand
  | .string name => some (.field name)
  | .array [.string "fact", .string key] => some (.fact key)
  | .array [.string "parameter", .string name] => some (.parameter name)
  | _ => none

theorem Operand.ofJson?_toJson (hostKey : String) (operand : Operand) :
    ofJson? (operand.toJson hostKey) = some (operand.resolve hostKey) := by
  cases operand <;> rfl

theorem Operand.render_resolve (hostKey : String) (operand : Operand) :
    (operand.resolve hostKey).render hostKey = operand.render hostKey := by
  cases operand <;> rfl

namespace Term

mutual

/-- A term with a field for the host key in every comparison. -/
def resolve (hostKey : String) : Term → Term
  | compare comparison operand value => .compare comparison (operand.resolve hostKey) value
  | not term => .not (resolve hostKey term)
  | combine connective terms => .combine connective (resolveEach hostKey terms)
termination_by structural term => term

/-- Some terms with a field for the host key. -/
def resolveEach (hostKey : String) : List Term → List Term
  | [] => []
  | term :: terms => resolve hostKey term :: resolveEach hostKey terms
termination_by structural terms => terms

end

/-- The term of an array by its first word, from its other elements and their terms. -/
def ofElements? (elements : List Json) (terms : List (Option Term)) : String → Option Term
  | "not" =>
    match terms with
    | [some term] => some (.not term)
    | _ => none
  | "and" => (terms.mapM id).map (.combine .and)
  | "or" => (terms.mapM id).map (.combine .or)
  | word =>
    match elements with
    | [operand, .string value] => do
      let comparison ← Comparison.parse? word
      let operand ← Operand.ofJson? operand
      return .compare comparison operand value
    | _ => none

mutual

/-- The term of a value on the wire; none for a value that is no condition. -/
def ofJson? : Json → Option Term
  | .array (.string word :: elements) => ofElements? elements (ofJsonEach? elements) word
  | _ => none
termination_by structural value => value

/-- The terms of some values. -/
def ofJsonEach? : List Json → List (Option Term)
  | [] => []
  | value :: values => ofJson? value :: ofJsonEach? values
termination_by structural values => values

end

mutual

/-- A term is found again in its nested array. -/
theorem ofJson?_toJson (hostKey : String) : (term : Term) →
    ofJson? (term.toJson hostKey) = some (term.resolve hostKey)
  | compare comparison operand value => by
    have found := operand.ofJson?_toJson hostKey
    rw [toJson, ofJson?, resolve]
    cases comparison <;> simp [ofElements?, Comparison.text, Comparison.parse?, found]
  | not term => by
    rw [toJson, ofJson?, ofJsonEach?, ofJsonEach?, ofJson?_toJson hostKey term, resolve]
    rfl
  | combine connective terms => by
    rw [toJson, ofJson?, ofJsonEach?_toJsonEach hostKey terms, resolve]
    cases connective with
    | and => exact congrArg (Option.map _) (mapM_id_map_some _)
    | or => exact congrArg (Option.map _) (mapM_id_map_some _)

theorem ofJsonEach?_toJsonEach (hostKey : String) : (terms : List Term) →
    ofJsonEach? (toJsonEach hostKey terms) = (resolveEach hostKey terms).map some
  | [] => rfl
  | term :: terms => by
    rw [toJsonEach, ofJsonEach?, resolveEach, List.map_cons, ofJson?_toJson hostKey term,
      ofJsonEach?_toJsonEach hostKey terms]

end

mutual

/-- A field for the host key does not show in the text. -/
theorem render_resolve (hostKey : String) : (term : Term) →
    (term.resolve hostKey).render hostKey = term.render hostKey
  | compare comparison operand value => by
    rw [resolve, render, render, operand.render_resolve]
  | not term => by
    rw [resolve, render, render, render_resolve hostKey term]
  | combine connective terms => by
    rw [resolve, render, render, renderEach_resolveEach hostKey terms]

theorem renderEach_resolveEach (hostKey : String) : (terms : List Term) →
    renderEach hostKey (resolveEach hostKey terms) = renderEach hostKey terms
  | [] => rfl
  | term :: terms => by
    rw [resolveEach, renderEach, renderEach, render_resolve hostKey term,
      renderEach_resolveEach hostKey terms]

end

variable {hostKey : String} {first second : Term}

theorem parse_render (hostKey : String) (term : Term) :
    Json.parseUnlimited (term.render hostKey) = .ok (term.toJson hostKey) :=
  (term.literal_render hostKey).parse

/-- Two terms have one text if they differ in nothing but what stands for the host key. -/
theorem render_eq_render_iff :
    first.render hostKey = second.render hostKey ↔
      first.resolve hostKey = second.resolve hostKey := by
  constructor
  · intro same
    have read := second.parse_render hostKey
    rw [← same, first.parse_render hostKey] at read
    have found := second.ofJson?_toJson hostKey
    rw [← Except.ok.inj read, first.ofJson?_toJson hostKey] at found
    exact Option.some.inj found
  · intro same
    rw [← first.render_resolve, same, second.render_resolve]

/-- The text of a term is read as its nested array, in which the host key stands for itself. Nothing
is lost: two terms have one text exactly if they are equal with a field for the host key. -/
theorem render_faithful (hostKey : String) :
    (∀ term : Term, Json.parseUnlimited (term.render hostKey) = .ok (term.toJson hostKey)) ∧
      ∀ first second : Term, first.render hostKey = second.render hostKey ↔
        first.resolve hostKey = second.resolve hostKey :=
  ⟨parse_render hostKey, fun _ _ => render_eq_render_iff⟩

end Term

end InventoryQuery
