import InventoryQuery.Proofs.Query.Unfolding
/-! # When a query has a text

Rendering decides group by group whether there is a text, none or a refusal. Over the whole arena
this comes to two conditions: no group holds a condition or several tokens, or some group with
several tokens is ambiguous. The host key plays no part in either.
-/

namespace InventoryQuery

/-- From a group, groups whose only token is a subgroup lead to a group without tokens. -/
inductive Query.Hollow (query : Query) : Nat → Prop
  | empty {id : Nat} {group : Group} (stored : query.group? id = some group)
      (none : group.tokens = []) : Hollow query id
  | only {id child : Nat} {group : Group} (stored : query.group? id = some group)
      (one : group.tokens = [.group child]) (below : Hollow query child) : Hollow query id

/-- A group with several tokens and no connective, or with a subgroup that stands for nothing. -/
def Query.Ambiguous (query : Query) (group : Group) : Prop :=
  2 ≤ group.tokens.length ∧
    (group.connective = none ∨ ∃ child, .group child ∈ group.tokens ∧ query.Hollow child)

/-- A group with no condition and at most one subgroup. -/
def Group.Unconditional (group : Group) : Prop :=
  group.tokens.length ≤ 1 ∧ ∀ term, .term term ∉ group.tokens

/-- The refusals of an ambiguous group. -/
inductive QueryError.OfAmbiguity : QueryError → Prop
  | missingConnective (tokens : Nat) : OfAmbiguity (.missingConnective tokens)
  | emptySubgroup (connective : Connective) : OfAmbiguity (.emptySubgroup connective)

namespace Tree

variable {hostKey : String} {connective : Connective} {outcomes : List Rendered}

theorem renderEach_eq (hostKey : String) (members : List Tree) :
    renderEach hostKey members = members.map (render hostKey) := by
  induction members with
  | nil => rfl
  | cons member members ih => rw [renderEach, ih, List.map_cons]

theorem render_group (hostKey : String) (id : Nat) (connective : Option Connective)
    (members : List Tree) :
    render hostKey (.group id connective members) =
      join connective (members.map (render hostKey)) := by
  rw [render, renderEach_eq]

/-- The texts of all members are there, or the first member without one decides. -/
theorem joinTexts_cases (connective : Connective) (outcomes : List Rendered) :
    ((∃ texts, joinTexts connective outcomes = .ok texts) ∧
        ∀ outcome ∈ outcomes, ∃ text, outcome = .ok (some text)) ∨
      (joinTexts connective outcomes = .error (.emptySubgroup connective) ∧
        .ok none ∈ outcomes) ∨
      ∃ refusal, joinTexts connective outcomes = .error refusal ∧ .error refusal ∈ outcomes := by
  induction outcomes with
  | nil => exact .inl ⟨⟨_, rfl⟩, by simp⟩
  | cons outcome outcomes ih =>
    match outcome with
    | .error refusal => exact .inr (.inr ⟨refusal, rfl, List.mem_cons_self⟩)
    | .ok none => exact .inr (.inl ⟨rfl, List.mem_cons_self⟩)
    | .ok (some text) =>
      rcases ih with ⟨⟨texts, joined⟩, all⟩ | ⟨joined, present⟩ | ⟨refusal, joined, present⟩
      · refine .inl ⟨⟨", " ++ text ++ texts, by rw [joinTexts, joined]; rfl⟩, ?_⟩
        rintro outcome (_ | ⟨_, present⟩)
        · exact ⟨text, rfl⟩
        · exact all outcome present
      · exact .inr (.inl ⟨by rw [joinTexts, joined]; rfl, List.mem_cons_of_mem _ present⟩)
      · exact .inr (.inr ⟨refusal, by rw [joinTexts, joined]; rfl,
          List.mem_cons_of_mem _ present⟩)

theorem join_single (connective : Option Connective) (outcome : Rendered) :
    join connective [outcome] = outcome := by
  cases connective <;> rfl

theorem join_several (connective : Connective) (first second : Rendered)
    (others : List Rendered) :
    join (some connective) (first :: second :: others) = (do
      let texts ← joinTexts connective (first :: second :: others)
      return some ("[" ++ Json.quote connective.text ++ texts ++ "]")) := rfl

/-- Several members have no text without a connective, or if one of them has none. -/
theorem join_error_iff (several : 2 ≤ outcomes.length) {connective : Option Connective} :
    (∃ refusal, join connective outcomes = .error refusal) ↔
      connective = none ∨ ∃ outcome ∈ outcomes, outcome = .ok none ∨
        ∃ refusal, outcome = .error refusal := by
  match outcomes, connective with
  | _ :: _ :: _, none => simp [join]
  | first :: second :: others, some connective =>
    rw [join_several]
    rcases joinTexts_cases connective (first :: second :: others) with
      ⟨⟨texts, joined⟩, all⟩ | ⟨joined, present⟩ | ⟨refusal, joined, present⟩
    · constructor
      · rintro ⟨refusal, refused⟩
        rw [joined] at refused
        cases refused
      · rintro (absent | ⟨outcome, present, bad⟩)
        · cases absent
        · obtain ⟨text, rfl⟩ := all outcome present
          rcases bad with bad | ⟨refusal, bad⟩ <;> cases bad
    · exact ⟨fun _ => .inr ⟨_, present, .inl rfl⟩, fun _ => ⟨_, by rw [joined]; rfl⟩⟩
    · exact ⟨fun _ => .inr ⟨_, present, .inr ⟨_, rfl⟩⟩, fun _ => ⟨_, by rw [joined]; rfl⟩⟩

/-- Several members have a text that is not empty, or a refusal. -/
theorem join_ok (several : 2 ≤ outcomes.length) {connective : Option Connective}
    {rendered : Option String} (joined : join connective outcomes = .ok rendered) :
    ∃ text, rendered = some text ∧ text ≠ "" := by
  match outcomes, connective with
  | _ :: _ :: _, none => simp [join] at joined
  | first :: second :: others, some connective =>
    rw [join_several] at joined
    cases texts : joinTexts connective (first :: second :: others) with
    | error refusal => rw [texts] at joined; cases joined
    | ok text =>
      rw [texts] at joined
      cases joined
      exact ⟨_, rfl, by simp⟩

theorem join_refusal {connective : Option Connective} {refusal : QueryError}
    (refused : join connective outcomes = .error refusal) :
    refusal.OfAmbiguity ∨ .error refusal ∈ outcomes := by
  match outcomes, connective with
  | [], none => cases refused
  | [], some _ => cases refused
  | [member], none => exact .inr (List.mem_singleton.mpr refused.symm)
  | [member], some _ => exact .inr (List.mem_singleton.mpr refused.symm)
  | _ :: _ :: _, none =>
    cases refused
    exact .inl (.missingConnective _)
  | first :: second :: others, some connective =>
    rw [join_several] at refused
    rcases joinTexts_cases connective (first :: second :: others) with
      ⟨⟨texts, joined⟩, _⟩ | ⟨joined, _⟩ | ⟨cause, joined, present⟩
    · rw [joined] at refused
      cases refused
    · rw [joined] at refused
      cases refused
      exact .inl (.emptySubgroup _)
    · rw [joined] at refused
      cases refused
      exact .inr present

theorem render_term_ne_empty (hostKey : String) (t : Term) : t.render hostKey ≠ "" := by
  cases t <;> simp [Term.render]

variable {query : Query}

theorem hollow_iff {id : Nat} {group : Group} (stored : query.group? id = some group) :
    query.Hollow id ↔
      group.tokens = [] ∨ ∃ child, group.tokens = [.group child] ∧ query.Hollow child := by
  constructor
  · intro hollow
    cases hollow with
    | empty stored' none =>
      obtain rfl := Option.some.inj (stored'.symm.trans stored)
      exact .inl none
    | only stored' one below =>
      obtain rfl := Option.some.inj (stored'.symm.trans stored)
      exact .inr ⟨_, one, below⟩
  · rintro (none | ⟨child, one, below⟩)
    · exact .empty stored none
    · exact .only stored one below

/-- A tree in the arena has no text exactly if it is a group that stands for nothing. -/
theorem render_eq_none_iff (hostKey : String) {parent : Option Nat} (tree : Tree)
    (held : tree.HeldBy query parent) :
    tree.render hostKey = .ok none ↔ ∃ id, tree.token = .group id ∧ query.Hollow id := by
  induction tree generalizing parent with
  | term t => simp [render, token]
  | group id connective members ih =>
    obtain ⟨stored, each⟩ := heldBy_group.mp held
    have here : (∃ id', token (.group id connective members) = .group id' ∧ query.Hollow id') ↔
        query.Hollow id := by simp [token]
    rw [here, hollow_iff stored, render_group]
    rcases members with _ | ⟨member, _ | ⟨second, others⟩⟩
    · cases connective <;> simp [join]
    · rw [List.map_singleton, join_single,
        ih member List.mem_cons_self (each member List.mem_cons_self)]
      simp
    · constructor
      · intro absent
        obtain ⟨text, some, _⟩ := join_ok (by simp) absent
        cases some
      · simp

/-- A tree without a text is a group all of whose groups are without condition. -/
theorem render_eq_none_iff_unconditional (hostKey : String) (parent : Option Nat) (tree : Tree) :
    tree.render hostKey = .ok none ↔ (∀ t, tree.token ≠ .term t) ∧
      ∀ id group, Stop.group id group ∈ tree.walk parent → group.Unconditional := by
  induction tree generalizing parent with
  | term t => simp [render, token]
  | group id connective members ih =>
    rw [render_group, walk_group]
    rcases members with _ | ⟨member, _ | ⟨second, others⟩⟩
    · cases connective <;> simp [join, token, Group.Unconditional]
    · rw [List.map_singleton, join_single, ih member List.mem_cons_self (some id)]
      have alone : Group.Unconditional ⟨parent, connective, [member].map token⟩ ↔
          ∀ t, member.token ≠ .term t := by
        simp [Group.Unconditional, eq_comm]
      constructor
      · rintro ⟨noTerm, below⟩
        refine ⟨by simp [token], fun id' group met => ?_⟩
        rcases List.mem_cons.mp met with here | met
        · obtain ⟨_, rfl⟩ := Stop.group.inj here
          exact alone.mpr noTerm
        · exact below id' group (by simpa using met)
      · rintro ⟨_, all⟩
        exact ⟨alone.mp (all _ _ List.mem_cons_self), fun id' group met =>
          all id' group (List.mem_cons_of_mem _ (by simpa using met))⟩
    · constructor
      · intro absent
        obtain ⟨text, some, _⟩ := join_ok (by simp) absent
        cases some
      · rintro ⟨_, all⟩
        have crowded := (all _ _ List.mem_cons_self).1
        simp at crowded

/-- A tree in the arena is refused exactly if one of its groups is ambiguous, however deep. -/
theorem render_error_iff (hostKey : String) {parent : Option Nat} (tree : Tree)
    (held : tree.HeldBy query parent) :
    (∃ refusal, tree.render hostKey = .error refusal) ↔
      ∃ id group, Stop.group id group ∈ tree.walk parent ∧ query.Ambiguous group := by
  induction tree generalizing parent with
  | term t => simp [render]
  | group id connective members ih =>
    obtain ⟨stored, each⟩ := heldBy_group.mp held
    have splits : (∃ id' group, Stop.group id' group ∈ walk parent (.group id connective members) ∧
        query.Ambiguous group) ↔
          query.Ambiguous ⟨parent, connective, members.map token⟩ ∨
            ∃ member ∈ members, ∃ refusal, member.render hostKey = .error refusal := by
      rw [walk_group]
      constructor
      · rintro ⟨id', group, met, ambiguous⟩
        rcases List.mem_cons.mp met with here | met
        · obtain ⟨_, rfl⟩ := Stop.group.inj here
          exact .inl ambiguous
        · obtain ⟨member, present, met⟩ := List.mem_flatMap.mp met
          exact .inr ⟨member, present,
            (ih member present (each member present)).mpr ⟨id', group, met, ambiguous⟩⟩
      · rintro (ambiguous | ⟨member, present, refused⟩)
        · exact ⟨_, _, List.mem_cons_self, ambiguous⟩
        · obtain ⟨id', group, met, ambiguous⟩ :=
            (ih member present (each member present)).mp refused
          exact ⟨id', group, List.mem_cons_of_mem _ (List.mem_flatMap.mpr ⟨_, present, met⟩),
            ambiguous⟩
    rw [splits, render_group]
    rcases members with _ | ⟨first, _ | ⟨second, others⟩⟩
    · cases connective <;> simp [join, Query.Ambiguous]
    · rw [List.map_singleton, join_single]
      simp [Query.Ambiguous]
    · have hollow : (∃ child, Token.group child ∈ (first :: second :: others).map token ∧
          query.Hollow child) ↔
            ∃ member ∈ first :: second :: others, member.render hostKey = .ok none := by
        constructor
        · rintro ⟨child, present, below⟩
          obtain ⟨member, present, same⟩ := List.mem_map.mp present
          exact ⟨member, present,
            (member.render_eq_none_iff hostKey (each member present)).mpr ⟨child, same, below⟩⟩
        · rintro ⟨member, present, absent⟩
          obtain ⟨child, same, below⟩ :=
            (member.render_eq_none_iff hostKey (each member present)).mp absent
          exact ⟨child, List.mem_map.mpr ⟨member, present, same⟩, below⟩
      rw [join_error_iff (by simp), Query.Ambiguous, hollow]
      constructor
      · rintro (absent | ⟨_, present, bad⟩)
        · exact .inl ⟨by simp, .inl absent⟩
        · obtain ⟨member, inside, rfl⟩ := List.mem_map.mp present
          rcases bad with nothing | refused
          · exact .inl ⟨by simp, .inr ⟨member, inside, nothing⟩⟩
          · exact .inr ⟨member, inside, refused⟩
      · rintro (⟨_, absent | ⟨member, present, nothing⟩⟩ | ⟨member, present, refused⟩)
        · exact .inl absent
        · exact .inr ⟨_, List.mem_map_of_mem present, .inl nothing⟩
        · exact .inr ⟨_, List.mem_map_of_mem present, .inr refused⟩

theorem render_refusal (hostKey : String) (tree : Tree) {refusal : QueryError}
    (refused : tree.render hostKey = .error refusal) : refusal.OfAmbiguity := by
  induction tree with
  | term t => cases refused
  | group id connective members ih =>
    rw [render_group] at refused
    rcases join_refusal refused with ambiguous | present
    · exact ambiguous
    · obtain ⟨member, present, same⟩ := List.mem_map.mp present
      exact ih member present same

theorem render_ne_empty (hostKey : String) (tree : Tree) {text : String}
    (rendered : tree.render hostKey = .ok (some text)) : text ≠ "" := by
  induction tree with
  | term t =>
    cases rendered
    exact render_term_ne_empty hostKey t
  | group id connective members ih =>
    rw [render_group] at rendered
    rcases members with _ | ⟨member, _ | ⟨second, others⟩⟩
    · cases connective <;> cases rendered
    · rw [List.map_singleton, join_single] at rendered
      exact ih member List.mem_cons_self rendered
    · obtain ⟨_, same, nonempty⟩ := join_ok (by simp) rendered
      obtain rfl := Option.some.inj same
      exact nonempty

end Tree

namespace Outline.Describes

variable {outline : Outline} {query : Query}

theorem mem_groups_iff (describes : outline.Describes query) {group : Group} :
    group ∈ query.groups ↔ ∃ id, Tree.Stop.group id group ∈ outline.tree.walk none := by
  rw [Array.mem_iff_getElem?]
  exact exists_congr fun id => describes.mem_walk_iff.symm

/-- The conditions on the walk are those that the groups of the arena hold. -/
theorem mem_terms_iff (describes : outline.Describes query) {t : Term} :
    t ∈ outline.tree.terms ↔ ∃ group ∈ query.groups, .term t ∈ group.tokens := by
  obtain ⟨connective, members, same⟩ := describes.tree_eq_group
  rw [Tree.mem_terms_iff, Tree.mem_walk_term_iff]
  constructor
  · rintro (alone | ⟨id, group, walked, held⟩)
    · rw [same] at alone
      cases alone
    · exact ⟨group, describes.mem_groups_iff.mpr ⟨id, walked⟩, held⟩
  · rintro ⟨group, present, held⟩
    obtain ⟨id, walked⟩ := describes.mem_groups_iff.mp present
    exact .inr ⟨id, group, walked, held⟩

theorem render_eq_none_iff (describes : outline.Describes query) (hostKey : String) :
    query.render hostKey = .ok none ↔ ∀ group ∈ query.groups, group.Unconditional := by
  obtain ⟨connective, members, same⟩ := describes.tree_eq_group
  rw [describes.render_eq, Tree.render_eq_none_iff_unconditional hostKey none]
  constructor
  · rintro ⟨_, all⟩ group present
    obtain ⟨id, met⟩ := describes.mem_groups_iff.mp present
    exact all id group met
  · intro all
    refine ⟨by simp [same, Tree.token], fun id group met => ?_⟩
    exact all group (describes.mem_groups_iff.mpr ⟨id, met⟩)

theorem render_error_iff (describes : outline.Describes query) (hostKey : String) :
    (∃ refusal, query.render hostKey = .error refusal) ↔
      ∃ group ∈ query.groups, query.Ambiguous group := by
  rw [describes.render_eq, Tree.render_error_iff hostKey _ describes.heldBy]
  constructor
  · rintro ⟨id, group, met, ambiguous⟩
    exact ⟨group, describes.mem_groups_iff.mpr ⟨id, met⟩, ambiguous⟩
  · rintro ⟨group, present, ambiguous⟩
    obtain ⟨id, met⟩ := describes.mem_groups_iff.mp present
    exact ⟨id, group, met, ambiguous⟩

end Outline.Describes

/-- A query that calls built matches everything only if no group holds a condition or several
tokens, and it is refused only if a group with several tokens is ambiguous; else it has a text.
Neither depends on the host key. -/
theorem render_ofCalls_cases (calls : List Call) (hostKey : String) :
    ((Query.ofCalls calls).render hostKey = .ok none ↔
        ∀ group ∈ (Query.ofCalls calls).groups, group.Unconditional) ∧
      ((∃ refusal, (Query.ofCalls calls).render hostKey = .error refusal) ↔
        ∃ group ∈ (Query.ofCalls calls).groups, (Query.ofCalls calls).Ambiguous group) ∧
      (∀ refusal, (Query.ofCalls calls).render hostKey = .error refusal →
        refusal.OfAmbiguity) ∧
      ((¬∀ group ∈ (Query.ofCalls calls).groups, group.Unconditional) →
        (¬∃ group ∈ (Query.ofCalls calls).groups, (Query.ofCalls calls).Ambiguous group) →
          ∃ text, (Query.ofCalls calls).render hostKey = .ok (some text) ∧ text ≠ "") ∧
      ∀ other, (∃ refusal, (Query.ofCalls calls).render hostKey = .error refusal) ↔
        ∃ refusal, (Query.ofCalls calls).render other = .error refusal := by
  have describes := Outline.describes_ofCalls calls
  have error_iff := describes.render_error_iff
  refine ⟨describes.render_eq_none_iff hostKey, error_iff hostKey, ?_, ?_, ?_⟩
  · intro refusal refused
    rw [describes.render_eq] at refused
    exact Tree.render_refusal hostKey _ refused
  · intro conditional unambiguous
    rw [← describes.render_eq_none_iff hostKey] at conditional
    rw [← error_iff hostKey] at unambiguous
    rcases rendered : (Query.ofCalls calls).render hostKey with refusal | _ | text
    · exact absurd ⟨refusal, rendered⟩ unambiguous
    · exact absurd rendered conditional
    · rw [describes.render_eq] at rendered
      exact ⟨text, rfl, Tree.render_ne_empty hostKey _ rendered⟩
  · intro other
    rw [error_iff hostKey, error_iff other]

end InventoryQuery
