import InventoryQuery.Expression.Basic
import InventoryQuery.Proofs.Query.Truth
import Mathlib.Data.List.TakeWhile
/-! # What a query text says

The meaning of an expression is given on its own, without the calls that build its query: what a
resource key selects is read off the characters of the key. The conditions that the calls add for an
atom have the truth of the atom.
-/

namespace InventoryQuery

section Meaning

variable (hostKey : String) (assignment : Assignment)

/-- A host specification compares the host key: with a regular expression for a glob, else with the
name. -/
def HostPattern.truth (name : String) : Bool :=
  if '*' ∈ name.toList then assignment .matching (.string hostKey) (HostPattern.regex name)
  else assignment .equal (.string hostKey) name

/-- The characters that end the type in a resource key and begin a selector. -/
def ResourceKey.isSeparator (c : Char) : Bool :=
  c = '@' || c = '%'

/-- A resource key up to its first separator. -/
def ResourceKey.typeText (key : String) : String :=
  String.ofList (key.toList.takeWhile (!isSeparator ·))

/-- What a resource key selects: the title, or a field or parameter behind the first separator. -/
def ResourceKey.selected (key : String) : Json :=
  match key.toList.dropWhile (!isSeparator ·) with
  | [] => .string "title"
  | separator :: name =>
    if separator = '@' then .string (String.ofList name)
    else .array [.string "parameter", .string (String.ofList name)]

/-- The truth of a resource condition: the type is as named, and what is selected compares as told,
or equals the empty text if nothing is told. A bare type without a test is compared with nothing. -/
def ResourceKey.truth (key : String) (test : Option (Comparison × String)) : Bool :=
  assignment .equal (.string "type") (typeText key) &&
    match test with
    | some (comparison, value) => assignment comparison (selected key) value
    | none => !key.toList.any isSeparator || assignment .equal (selected key) ""

/-- The truth of an atom. A fact without a test has none; the grammar derives no such atom. -/
def Atom.truth : Atom → Bool
  | .hosts names => names.any (HostPattern.truth hostKey assignment)
  | .condition .fact key (some (comparison, value)) =>
    assignment comparison (.array [.string "fact", .string key]) value
  | .condition .fact _ none => false
  | .condition .resource key test => ResourceKey.truth assignment key test

mutual

/-- The truth of an item. A negation is of the atom right after it. -/
def Item.truth : Item → Bool
  | .atom negated condition =>
    if negated then !condition.truth hostKey assignment else condition.truth hostKey assignment
  | .group first others => Item.truthOthers (Item.truth first) others
termination_by structural item => item

/-- The truth of what stands before some items joined with them from the left. In an expression with
a query one connective joins all the items between two parentheses, so their order is no matter. -/
def Item.truthOthers (before : Bool) : List (Connective × Item) → Bool
  | [] => before
  | (connective, item) :: others =>
    Item.truthOthers (connective.combine [before, Item.truth item]) others
termination_by structural others => others

end

/-- The truth of an expression. -/
def Expression.truth (expression : Expression) : Bool :=
  Item.truthOthers hostKey assignment (expression.first.truth hostKey assignment) expression.others

end Meaning

section Resources

variable {hostKey : String} {assignment : Assignment} {key : String} {parsed : ResourceKey}

theorem span_congr {p q : Char → Bool} {text : List Char} (same : ∀ c ∈ text, p c = q c) :
    text.takeWhile p = text.takeWhile q ∧ text.dropWhile p = text.dropWhile q := by
  induction text with
  | nil => exact ⟨rfl, rfl⟩
  | cons c text ih =>
    rw [List.forall_mem_cons] at same
    obtain ⟨taken, dropped⟩ := ih same.2
    simp only [List.takeWhile_cons, List.dropWhile_cons, same.1, taken, dropped, and_self]

theorem dropWhile_ne {separator : Char} {text : List Char} (present : separator ∈ text) :
    text.dropWhile (· ≠ separator) = separator :: (text.dropWhile (· ≠ separator)).drop 1 := by
  cases dropped : text.dropWhile (· ≠ separator) with
  | nil =>
    have all := List.dropWhile_eq_nil_iff.mp dropped separator present
    simp at all
  | cons c tail =>
    have stopped := List.head?_dropWhile_not (· ≠ separator) text
    rw [dropped] at stopped
    have same : c = separator := by simpa using stopped
    rw [same, List.drop_succ_cons, List.drop_zero]

namespace ResourceKey

/-- A key with separators of one kind is split at the first of them. -/
theorem split_eq {separator : Char} (known : isSeparator separator = true)
    (present : separator ∈ key.toList)
    (only : ∀ c ∈ key.toList, isSeparator c = true → c = separator) :
    (split separator key.toList).1 = typeText key ∧
      key.toList.dropWhile (!isSeparator ·) =
        separator :: (split separator key.toList).2.toList := by
  have same : ∀ c ∈ key.toList, decide (c ≠ separator) = !isSeparator c := by
    intro c inside
    by_cases equal : c = separator
    · simp [equal, known]
    · have other : isSeparator c = false :=
        Bool.eq_false_iff.mpr fun separates => equal (only c inside separates)
      simp [equal, other]
  obtain ⟨taken, dropped⟩ := span_congr same
  refine ⟨congrArg String.ofList taken, ?_⟩
  rw [split, String.toList_ofList, ← dropped]
  exact dropWhile_ne present

theorem isSeparator_iff {c : Char} : isSeparator c = true ↔ c = '@' ∨ c = '%' := by
  simp [isSeparator]

/-- A key divided at its first separator, if it has separators of one kind only. -/
def divided (key : String) : ResourceKey :=
  if '@' ∈ key.toList then field (split '@' key.toList).1 (split '@' key.toList).2
  else if '%' ∈ key.toList then parameter (split '%' key.toList).1 (split '%' key.toList).2
  else type key

theorem parse_eq (single : ¬('@' ∈ key.toList ∧ '%' ∈ key.toList)) :
    parse key =
      if (divided key).resourceType = "" then .error .missingType else .ok (divided key) := by
  rw [parse, if_neg single]
  rfl

theorem parse_eq_ok_iff :
    parse key = .ok parsed ↔
      ¬('@' ∈ key.toList ∧ '%' ∈ key.toList) ∧ (divided key).resourceType ≠ "" ∧
        parsed = divided key := by
  by_cases both : '@' ∈ key.toList ∧ '%' ∈ key.toList
  · rw [parse, if_pos both]
    simp [both]
  · rw [parse_eq both]
    by_cases missing : (divided key).resourceType = ""
    · rw [if_pos missing]
      simp [missing]
    · rw [if_neg missing, Except.ok.injEq, eq_comm]
      simp only [both, missing, ne_eq, not_false_eq_true, true_and]

/-- A key with separators of one kind is a bare type, a type with a field or a type with a
parameter. -/
theorem divided_cases (single : ¬('@' ∈ key.toList ∧ '%' ∈ key.toList)) :
    (divided key = .type (typeText key) ∧ selected key = .string "title" ∧
        key.toList.any isSeparator = false) ∨
      ∃ name, key.toList.any isSeparator = true ∧
        (divided key = .field (typeText key) name ∧ selected key = .string name ∨
          divided key = .parameter (typeText key) name ∧
            selected key = .array [.string "parameter", .string name]) := by
  by_cases atSign : '@' ∈ key.toList
  · have only : ∀ c ∈ key.toList, isSeparator c = true → c = '@' := by
      intro c inside separator
      rcases isSeparator_iff.mp separator with same | rfl
      · exact same
      · exact absurd ⟨atSign, inside⟩ single
    obtain ⟨type, rest⟩ := split_eq rfl atSign only
    refine .inr ⟨(split '@' key.toList).2, List.any_eq_true.mpr ⟨'@', atSign, rfl⟩, .inl ⟨?_, ?_⟩⟩
    · rw [divided, if_pos atSign, type]
    · simp [selected, rest]
  · by_cases percent : '%' ∈ key.toList
    · have only : ∀ c ∈ key.toList, isSeparator c = true → c = '%' := by
        intro c inside separator
        rcases isSeparator_iff.mp separator with rfl | same
        · exact absurd inside atSign
        · exact same
      obtain ⟨type, rest⟩ := split_eq rfl percent only
      refine .inr ⟨(split '%' key.toList).2, List.any_eq_true.mpr ⟨'%', percent, rfl⟩,
        .inr ⟨?_, ?_⟩⟩
      · rw [divided, if_neg atSign, if_pos percent, type]
      · simp [selected, rest]
    · have none : ∀ c ∈ key.toList, (!isSeparator c) = true := by
        intro c inside
        rw [Bool.not_eq_true', ← Bool.not_eq_true, isSeparator_iff]
        rintro (rfl | rfl)
        · exact atSign inside
        · exact percent inside
      refine .inl ⟨?_, ?_, ?_⟩
      · rw [divided, if_neg atSign, if_neg percent, typeText, List.takeWhile_eq_self_iff.mpr none,
          String.ofList_toList]
      · rw [selected, List.dropWhile_eq_nil_iff.mpr none]
      · simpa using none

theorem resourceType_divided (single : ¬('@' ∈ key.toList ∧ '%' ∈ key.toList)) :
    (divided key).resourceType = typeText key := by
  rcases divided_cases single with ⟨bare, _⟩ | ⟨_, _, ⟨atField, _⟩ | ⟨atParameter, _⟩⟩
  · rw [bare, resourceType]
  · rw [atField, resourceType]
  · rw [atParameter, resourceType]

/-- A key that is read is a bare type, a type with a field or a type with a parameter. -/
theorem parse_sound (read : parse key = .ok parsed) :
    (parsed = .type (typeText key) ∧ selected key = .string "title" ∧
        key.toList.any isSeparator = false) ∨
      ∃ name, key.toList.any isSeparator = true ∧
        (parsed = .field (typeText key) name ∧ selected key = .string name ∨
          parsed = .parameter (typeText key) name ∧
            selected key = .array [.string "parameter", .string name]) := by
  obtain ⟨single, _, rfl⟩ := parse_eq_ok_iff.mp read
  exact divided_cases single

theorem truth_type (assignment : Assignment) (type : String) :
    ((Term.combine .and [.compare .equal (.field "type") type]).toJson hostKey).truth assignment =
      some (assignment .equal (.string "type") type) := by
  have told : Json.truthEach assignment
      (Term.toJsonEach hostKey [.compare .equal (.field "type") type]) =
        [assignment .equal (.string "type") type].map some := by
    rw [Term.toJsonEach, Json.truthEach, Term.toJson, Json.truth_compare]
    rfl
  rw [Term.toJson, Json.truth_combine .and told]
  simp [Connective.combine]

theorem truth_selected (assignment : Assignment) (type value : String) (comparison : Comparison)
    (operand : Operand) :
    ((Term.combine .and [.compare .equal (.field "type") type,
      .compare comparison operand value]).toJson hostKey).truth assignment =
        some (assignment .equal (.string "type") type &&
          assignment comparison (operand.toJson hostKey) value) := by
  have told : Json.truthEach assignment
      (Term.toJsonEach hostKey [.compare .equal (.field "type") type,
        .compare comparison operand value]) =
        [assignment .equal (.string "type") type,
          assignment comparison (operand.toJson hostKey) value].map some := by
    simp only [Term.toJsonEach, Json.truthEach, Term.toJson, Json.truth_compare]
    rfl
  rw [Term.toJson, Json.truth_combine .and told]
  simp [Connective.combine]

/-- The condition of a key has the truth of the key. -/
theorem truth_toTerm (read : parse key = .ok parsed) (test : Option (Comparison × String)) :
    ((parsed.toTerm (test.map (·.2)) ((test.map (·.1)).getD .equal)).toJson hostKey).truth
      assignment = some (truth assignment key test) := by
  rcases parse_sound read with ⟨rfl, selected, bare⟩ | ⟨name, selects, same⟩
  · cases test with
    | none =>
      rw [truth, bare, Bool.not_false, Bool.true_or, Bool.and_true]
      exact truth_type assignment _
    | some test =>
      rw [truth, selected]
      exact truth_selected assignment _ _ _ (.field "title")
  · have several : parsed.toTerm (test.map (·.2)) ((test.map (·.1)).getD .equal) =
        .combine .and [.compare .equal (.field "type") (typeText key),
          .compare ((test.map (·.1)).getD .equal) parsed.operand ((test.map (·.2)).getD "")] := by
      rcases same with ⟨rfl, _⟩ | ⟨rfl, _⟩ <;> rfl
    have operand : parsed.operand.toJson hostKey = selected key := by
      rcases same with ⟨rfl, selected⟩ | ⟨rfl, selected⟩ <;> exact selected.symm
    rw [several, truth_selected, operand]
    cases test with
    | none =>
      rw [truth, selects, Bool.not_true, Bool.false_or]
      rfl
    | some test => rfl

end ResourceKey

end Resources

section Atoms

variable {hostKey : String} {assignment : Assignment}

theorem HostPattern.truth_term (name : String) :
    ((term name).toJson hostKey).truth assignment = some (truth hostKey assignment name) := by
  rw [term, truth, isGlob]
  by_cases glob : '*' ∈ name.toList
  · rw [if_pos glob, if_pos (List.contains_iff_mem.mpr glob)]
    exact Json.truth_compare _ _ _
  · rw [if_neg glob, if_neg (by simpa using glob)]
    exact Json.truth_compare _ _ _

theorem truth_negateIf {term : Term} {told : Bool} (negated : Bool)
    (truth : (term.toJson hostKey).truth assignment = some told) :
    ((Term.negateIf negated term).toJson hostKey).truth assignment =
      some (if negated then !told else told) := by
  cases negated with
  | false => exact truth
  | true => exact Json.truth_not truth

theorem HostPattern.truth_combine (names : List String) :
    ((Term.combine .or (names.map term)).toJson hostKey).truth assignment =
      some (Atom.truth hostKey assignment (.hosts names)) := by
  have told : Json.truthEach assignment (Term.toJsonEach hostKey (names.map term)) =
      (names.map (truth hostKey assignment)).map some := by
    induction names with
    | nil => rfl
    | cons name names ih =>
      rw [List.map_cons, Term.toJsonEach, Json.truthEach, truth_term, ih]
      rfl
  rw [Term.toJson, Json.truth_combine .or told, Connective.combine, List.any_map]
  rfl

/-- The condition of an atom that is added has the truth of the atom. -/
theorem truth_condition {category : Category} {key : String}
    {test : Option (Comparison × String)} {term : Term}
    (added : Builder.condition category key (test.map (·.2)) ((test.map (·.1)).getD .equal) =
      .ok term) :
    (term.toJson hostKey).truth assignment =
      some (Atom.truth hostKey assignment (.condition category key test)) := by
  cases category with
  | fact =>
    cases test with
    | none => cases added
    | some test =>
      cases added
      exact Json.truth_compare _ _ _
  | resource =>
    simp only [Builder.condition] at added
    split at added
    · next parsed read =>
      cases added
      exact ResourceKey.truth_toTerm read test
    · cases added

end Atoms

end InventoryQuery
