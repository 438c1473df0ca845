import InventoryQuery.Proofs.Expression.Meaning
import InventoryQuery.Proofs.Query.Text
/-! # The grammar of what is sent

A query is sent as a nested array: a condition on hosts, on a fact or on a resource, such a
condition negated, or a combination of at least two arrays. The grammar is stated on the arrays
alone. Conditions on facts and on resources never occur together, so its rules name a category.

The text of a tree is read as an array of the grammar if the conditions of the tree are in the
grammar (`Tree.render_wire`).
-/

namespace InventoryQuery

namespace Wire

/-- A comparison of the host key: with a name, or with the regular expression for a glob. -/
inductive Host (hostKey : String) : Json → Prop
  | name {name : String} (plain : '*' ∉ name.toList) :
      Host hostKey (.array [.string "=", .string hostKey, .string name])
  | glob {glob : String} (starred : '*' ∈ glob.toList) :
      Host hostKey (.array [.string "~", .string hostKey, .string (HostPattern.regex glob)])

/-- The name of a resource type. -/
def IsType (type : String) : Prop :=
  type ≠ "" ∧ '@' ∉ type.toList ∧ '%' ∉ type.toList

/-- What is compared of a resource beside its type. -/
inductive Selected : Json → Prop
  | title : Selected (.string "title")
  | field (name : String) : Selected (.string name)
  | parameter (name : String) : Selected (.array [.string "parameter", .string name])

/-- A condition without a negation. Hosts go with every category. -/
inductive Basic (hostKey : String) : Option Category → Json → Prop
  | hosts {category : Option Category} {hosts : List Json} (nonempty : hosts ≠ [])
      (each : ∀ host ∈ hosts, Host hostKey host) :
      Basic hostKey category (.array (.string "or" :: hosts))
  | fact (comparison : Comparison) (key value : String) :
      Basic hostKey (some .fact)
        (.array [.string comparison.text, .array [.string "fact", .string key], .string value])
  | type {type : String} (named : IsType type) :
      Basic hostKey (some .resource)
        (.array [.string "and", .array [.string "=", .string "type", .string type]])
  | resource {type : String} {selected : Json} (named : IsType type) (comparison : Comparison)
      (selects : Selected selected) (value : String) :
      Basic hostKey (some .resource)
        (.array [.string "and", .array [.string "=", .string "type", .string type],
          .array [.string comparison.text, selected, .string value]])

/-- A condition that may be negated. -/
inductive Signed (hostKey : String) (category : Option Category) : Json → Prop
  | plain {value : Json} (basic : Basic hostKey category value) : Signed hostKey category value
  | negated {value : Json} (basic : Basic hostKey category value) :
      Signed hostKey category (.array [.string "not", value])

/-- What is sent. -/
inductive Condition (hostKey : String) (category : Option Category) : Json → Prop
  | single {value : Json} (signed : Signed hostKey category value) :
      Condition hostKey category value
  | combined (connective : Connective) {values : List Json} (several : 2 ≤ values.length)
      (each : ∀ value ∈ values, Condition hostKey category value) :
      Condition hostKey category (.array (.string connective.text :: values))

variable {hostKey : String} {category wider : Option Category} {value : Json}

theorem Basic.mono (fixed : ∀ c ∈ category, wider = some c) (basic : Basic hostKey category value) :
    Basic hostKey wider value := by
  cases basic with
  | hosts nonempty each => exact .hosts nonempty each
  | fact comparison key value =>
    rw [fixed _ rfl]
    exact .fact comparison key value
  | type named =>
    rw [fixed _ rfl]
    exact .type named
  | resource named comparison selects value =>
    rw [fixed _ rfl]
    exact .resource named comparison selects value

/-- A condition goes on being one of the query when the category gets fixed. -/
theorem Signed.mono (fixed : ∀ c ∈ category, wider = some c)
    (signed : Signed hostKey category value) : Signed hostKey wider value := by
  cases signed with
  | plain basic => exact .plain (basic.mono fixed)
  | negated basic => exact .negated (basic.mono fixed)

end Wire

section Terms

variable {hostKey : String} {category : Option Category}

theorem HostPattern.wire_term (name : String) : Wire.Host hostKey ((term name).toJson hostKey) := by
  rw [term, isGlob]
  by_cases starred : '*' ∈ name.toList
  · rw [if_pos (List.contains_iff_mem.mpr starred)]
    exact .glob starred
  · rw [if_neg (by simpa using starred)]
    exact .name starred

theorem Term.toJsonEach_eq (terms : List Term) :
    toJsonEach hostKey terms = terms.map (toJson hostKey) := by
  induction terms with
  | nil => rfl
  | cons term terms ih => rw [toJsonEach, ih, List.map_cons]

theorem Term.wire_negateIf {term : Term} (negated : Bool)
    (basic : Wire.Basic hostKey category (term.toJson hostKey)) :
    Wire.Signed hostKey category ((Term.negateIf negated term).toJson hostKey) := by
  cases negated with
  | false => exact .plain basic
  | true => exact .negated basic

theorem HostPattern.wire_hosts {names : List String} (negated : Bool) (named : names ≠ []) :
    Wire.Signed hostKey category
      ((Term.negateIf negated (.combine .or (names.map term))).toJson hostKey) := by
  apply Term.wire_negateIf
  rw [Term.toJson, Term.toJsonEach_eq, List.map_map]
  apply Wire.Basic.hosts
  · simpa using named
  · intro host present
    obtain ⟨name, _, rfl⟩ := List.mem_map.mp present
    exact wire_term name

namespace ResourceKey

variable {key : String} {parsed : ResourceKey}

theorem resourceType_ne (read : parse key = .ok parsed) : parsed.resourceType ≠ "" := by
  obtain ⟨_, named, rfl⟩ := parse_eq_ok_iff.mp read
  exact named

theorem resourceType_eq (read : parse key = .ok parsed) : parsed.resourceType = typeText key := by
  obtain ⟨single, _, rfl⟩ := parse_eq_ok_iff.mp read
  exact resourceType_divided single

theorem wire_type (read : parse key = .ok parsed) : Wire.IsType parsed.resourceType := by
  have bare : ∀ c ∈ parsed.resourceType.toList, isSeparator c = false := by
    intro c present
    rw [resourceType_eq read, typeText, String.toList_ofList] at present
    have kept := List.all_eq_true.mp List.all_takeWhile c present
    simpa using kept
  refine ⟨resourceType_ne read, fun present => ?_, fun present => ?_⟩
  · exact absurd (bare _ present) (by decide)
  · exact absurd (bare _ present) (by decide)

theorem wire_operand (key : ResourceKey) (hostKey : String) :
    Wire.Selected (key.operand.toJson hostKey) := by
  cases key with
  | type _ => exact .title
  | parameter _ name => exact .parameter name
  | field _ name => exact .field name

theorem wire_toTerm (read : parse key = .ok parsed) (value : Option String)
    (comparison : Comparison) :
    Wire.Basic hostKey (some .resource) ((parsed.toTerm value comparison).toJson hostKey) := by
  have named := wire_type read
  have selected := parsed.wire_operand hostKey
  cases parsed with
  | type _ =>
    cases value with
    | none => exact .type named
    | some value => exact .resource named comparison selected value
  | parameter _ _ => exact .resource named comparison selected (value.getD "")
  | field _ _ => exact .resource named comparison selected (value.getD "")

end ResourceKey

/-- A condition that is formed goes with its category. -/
theorem wire_condition {category : Category} {key : String} {value : Option String}
    {comparison : Comparison} {formed : Term}
    (found : Builder.condition category key value comparison = .ok formed) :
    Wire.Basic hostKey (some category) (formed.toJson hostKey) := by
  unfold Builder.condition at found
  cases category with
  | fact =>
    cases value with
    | none => cases found
    | some value =>
      cases found
      exact .fact comparison key value
  | resource =>
    dsimp only at found
    split at found
    · next parsed read =>
      cases found
      exact ResourceKey.wire_toTerm read value comparison
    · cases found

end Terms

namespace Tree

open Json (Literal literal_array literal_quote)

variable {hostKey : String} {category : Option Category}

/-- Members that all have texts have the values of these texts. -/
theorem values_of_texts {members : List Tree} {texts : List String}
    (rendered : members.map (render hostKey) = texts.map fun text => .ok (some text))
    (each : ∀ member ∈ members, ∀ text, member.render hostKey = .ok (some text) →
      ∃ value, Literal text.toList value ∧ Wire.Condition hostKey category value) :
    ∃ values, List.Forall₂ Literal (texts.map String.toList) values ∧
      values.length = members.length ∧ ∀ value ∈ values, Wire.Condition hostKey category value := by
  induction members generalizing texts with
  | nil =>
    obtain rfl := List.map_eq_nil_iff.mp rendered.symm
    exact ⟨[], .nil, rfl, by simp⟩
  | cons member members ih =>
    obtain ⟨text, texts, rfl, first, others⟩ := List.map_eq_cons_iff.mp rendered.symm
    rw [List.forall_mem_cons] at each
    obtain ⟨value, literal, condition⟩ := each.1 text first.symm
    obtain ⟨values, literals, length, conditions⟩ := ih others.symm each.2
    refine ⟨value :: values, .cons literal literals, ?_, ?_⟩
    · rw [List.length_cons, length, List.length_cons]
    · exact List.forall_mem_cons.mpr ⟨condition, conditions⟩

/-- A tree of conditions of a category is sent as such a condition: a group with one member as the
member, and a group with several as their combination. -/
theorem render_wire (tree : Tree) {parent : Option Nat}
    (signed : ∀ t, Stop.term t ∈ tree.walk parent →
      Wire.Signed hostKey category (t.toJson hostKey))
    {text : String} (rendered : tree.render hostKey = .ok (some text)) :
    ∃ value, Literal text.toList value ∧ Wire.Condition hostKey category value := by
  induction tree generalizing parent text with
  | term t =>
    cases rendered
    have single := signed t (by simp)
    exact ⟨_, t.literal_render hostKey, .single single⟩
  | group id connective members ih =>
    have below : ∀ member ∈ members, ∀ t, Stop.term t ∈ member.walk (some id) →
        Wire.Signed hostKey category (t.toJson hostKey) := by
      intro member present t met
      apply signed
      rw [walk_group]
      exact List.mem_cons_of_mem _ (List.mem_flatMap.mpr ⟨member, present, met⟩)
    rw [render_group] at rendered
    match members, connective with
    | [], none => cases rendered
    | [], some _ => cases rendered
    | [member], connective =>
      rw [List.map_singleton, join_single] at rendered
      exact ih member List.mem_cons_self (below member List.mem_cons_self) rendered
    | first :: second :: others, connective =>
      obtain ⟨declared, texts, -, same, rfl⟩ := (join_eq_text_iff (by simp)).mp rendered
      obtain ⟨values, literals, length, conditions⟩ := values_of_texts same
        fun member present _ found => ih member present (below member present) found
      refine ⟨.array (.string declared.text :: values), ?_, ?_⟩
      · rw [toList_arrayText]
        exact literal_array (literal_quote declared.text) literals
      · exact .combined declared (by simp [length]) conditions

end Tree

end InventoryQuery
