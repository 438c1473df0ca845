import InventoryQuery.Proofs.Expression.Meaning
import InventoryQuery.Proofs.Expression.Replay
import InventoryQuery.Proofs.Query.Step
/-! # What is sent has the truth of the text

A replayed item adds one member to the group under the cursor, and this member says what the item
says. The items of one group share its connective, or a call is refused.
-/

namespace InventoryQuery

section Members

variable {hostKey : String} {assignment : Assignment}

theorem Connective.combine_single (connective : Connective) (truth : Bool) :
    connective.combine [truth] = truth := by
  cases connective <;> simp [combine]

/-- Items joined by one connective are joined all at once. -/
theorem Item.truthOthers_eq {connective : Connective} {others : List (Connective × Item)}
    (same : ∀ pair ∈ others, pair.1 = connective) (before : Bool) :
    Item.truthOthers hostKey assignment before others =
      connective.combine (before :: others.map fun pair => pair.2.truth hostKey assignment) := by
  induction others generalizing before with
  | nil => exact (connective.combine_single before).symm
  | cons pair others ih =>
    obtain ⟨rfl, same⟩ := List.forall_mem_cons.mp same
    rw [truthOthers, ih same]
    cases pair.1 <;> simp [Connective.combine, Bool.and_assoc, Bool.or_assoc]

/-- A tree says what an item says, for every host key. -/
def Tree.Keeps (tree : Tree) (item : Item) : Prop :=
  ∀ hostKey assignment, tree.Means hostKey assignment (item.truth hostKey assignment)

/-- A group says what its members say, joined from the left, if its connective is the one in front
of each of them. -/
theorem Tree.means_group (id : Nat) {connective : Option Connective} {first : Tree}
    {trees : List Tree} {truth : Bool} {others : List (Connective × Item)}
    (head : first.Means hostKey assignment truth)
    (each : List.Forall₂ (fun tree pair => tree.Keeps pair.2) trees others)
    (declared : ∀ pair ∈ others, connective = some pair.1) :
    (Tree.group id connective (first :: trees)).Means hostKey assignment
      (Item.truthOthers hostKey assignment truth others) := by
  cases each with
  | nil => exact Tree.means_single id connective head
  | @cons second pair trees others keeps each =>
    have all : List.Forall₂ (Means hostKey assignment) (first :: second :: trees)
        (truth :: (pair :: others).map fun pair => pair.2.truth hostKey assignment) := by
      refine .cons head (.cons (keeps hostKey assignment) ?_)
      exact List.forall₂_map_right_iff.mpr (each.imp fun _ _ keeps => keeps hostKey assignment)
    have same : ∀ other ∈ pair :: others, other.1 = pair.1 := by
      intro other present
      have first := declared pair List.mem_cons_self
      exact Option.some.inj ((declared other present).symm.trans first)
    rw [declared pair List.mem_cons_self, Item.truthOthers_eq same]
    exact Tree.means_several id (by simp) all

end Members

namespace Outline

/-- The group under the cursor has one more member. -/
structure Gains (outline next : Outline) (tree : Tree) : Prop where
  current : next.current = outline.current.add tree
  around : next.around = outline.around

variable {outline next : Outline}

theorem Gains.connective {tree : Tree} (gains : outline.Gains next tree) :
    next.current.connective = outline.current.connective := by
  rw [gains.current]
  rfl

theorem replay_single (outline : Outline) (call : Call) :
    outline.replay [call] = outline.step call := by
  rw [replay]
  cases outline.step call <;> rfl

/-- An atom adds the member that says what the atom says. A list without a host would add none. -/
theorem step_atom {negated : Bool} {condition : Atom}
    (listed : ∀ names, condition = .hosts names → names ≠ [])
    (stepped : outline.step (condition.call negated) = .ok next) :
    ∃ tree, outline.Gains next tree ∧ tree.Keeps (.atom negated condition) := by
  match condition with
  | .hosts names =>
    rw [Atom.call, step, HostPattern.anyOf?_eq_some_iff.mpr ⟨listed names rfl, rfl⟩] at stepped
    cases stepped
    exact ⟨_, ⟨rfl, rfl⟩, fun _ _ =>
      Tree.means_term (truth_negateIf negated (HostPattern.truth_combine names))⟩
  | .condition category key test =>
    have call : (Atom.condition category key test).call negated =
        .addCondition category key (test.map (·.2)) ((test.map (·.1)).getD .equal) negated := by
      cases test <;> rfl
    rw [call] at stepped
    cases step_eq_ok_iff.mp stepped with
    | condition formed compatible =>
      exact ⟨_, ⟨rfl, rfl⟩, fun _ _ =>
        Tree.means_term (truth_negateIf negated (truth_condition formed))⟩

end Outline

namespace Grammar

open Outline

theorem Hosts.ne_nil {text rest : List Char} {names : List String}
    (listed : Hosts text rest names) : names ≠ [] := by
  cases listed <;> simp

theorem Atom.listed {keyChar : Char → Prop} {text rest : List Char} {atom : InventoryQuery.Atom}
    (derived : Atom keyChar text rest atom) : ∀ names, atom = .hosts names → names ≠ [] := by
  rintro names rfl
  cases derived with
  | hosts listed => exact listed.ne_nil

/-- What replaying the calls of an item or of some items does to an outline. The connectives in
front of items are all the connective of the group under the cursor, once it has one. -/
theorem Derives.replay {keyChar : Char → Prop} {phrase : Phrase} {text rest : List Char}
    (derived : Derives keyChar phrase text rest) {outline next : Outline} :
    match phrase with
    | .item item => outline.replay item.calls = .ok next →
        ∃ tree, outline.Gains next tree ∧ tree.Keeps item
    | .others others => outline.replay (Item.callsOthers others) = .ok next →
        ∃ trees, next.current.members = outline.current.members ++ trees ∧
          next.around = outline.around ∧
          List.Forall₂ (fun tree pair => tree.Keeps pair.2) trees others ∧
          (∀ pair ∈ others, next.current.connective = some pair.1) ∧
          ∀ connective, outline.current.connective = some connective →
            next.current.connective = some connective := by
  induction derived generalizing outline next with
  | atom plain =>
    intro replayed
    rw [Item.calls, replay_single] at replayed
    exact step_atom plain.listed replayed
  | negated spelled spacing apart plain =>
    intro replayed
    rw [Item.calls, replay_single] at replayed
    exact step_atom plain.listed replayed
  | group _ _ _ _ ihHead ihTail =>
    intro replayed
    rw [Item.calls] at replayed
    obtain ⟨opened, stepped, replayed⟩ := replay_cons_eq_ok replayed
    cases stepped
    obtain ⟨between, head, replayed⟩ := replay_append_eq_ok replayed
    obtain ⟨after, tail, closed⟩ := replay_append_eq_ok replayed
    obtain ⟨first, gains, keeps⟩ := ihHead head
    obtain ⟨trees, members, around, each, declared, _⟩ := ihTail tail
    -- the frame below the opened group is the one the cursor came from: closing returns to it
    rw [gains.around] at around
    rw [gains.current] at members
    rw [replay_single, step, closeGroup, around] at closed
    cases closed
    refine ⟨after.current.close, ⟨rfl, rfl⟩, fun hostKey assignment => ?_⟩
    rw [Item.truth, Frame.close, members]
    exact Tree.means_group _ (keeps hostKey assignment) each declared
  | done =>
    intro replayed
    cases replayed
    exact ⟨[], (List.append_nil _).symm, rfl, .nil, by simp, fun _ declared => declared⟩
  | @next _ _ _ _ _ _ connective item others _ _ _ _ _ _ _ ihHead ihTail =>
    intro replayed
    rw [Item.callsOthers] at replayed
    obtain ⟨between, stepped, replayed⟩ := replay_cons_eq_ok replayed
    obtain ⟨only, rfl⟩ := declare_eq_ok_iff.mp stepped
    obtain ⟨after, head, tail⟩ := replay_append_eq_ok replayed
    obtain ⟨tree, gains, keeps⟩ := ihHead head
    obtain ⟨trees, members, around, each, declared, kept⟩ := ihTail tail
    -- a declared connective stays, so the one in front of this item is the one at the end
    have joined : next.current.connective = some connective := kept connective gains.connective
    refine ⟨tree :: trees, ?_, ?_, .cons keeps each, ?_, ?_⟩
    · rw [members, gains.current]
      simp [Frame.add]
    · rw [around, gains.around]
    · exact List.forall_mem_cons.mpr ⟨joined, declared⟩
    · intro declared found
      rw [joined, only declared found]

end Grammar

section Parse

open Grammar

/-- Replaying the calls of an expression leaves the root group open, and it says what the expression
says. -/
theorem means_of_replay {text : String} {expression : Expression}
    (accepted : Accepts KeyChar text expression) {next : Outline}
    (replayed : Outline.empty.replay expression.calls = .ok next) :
    ∀ hostKey assignment,
      next.tree.Means hostKey assignment (expression.truth hostKey assignment) := by
  obtain ⟨_, _, _, _, _, _, head, more, _⟩ := accepted
  obtain ⟨between, first, others⟩ := Outline.replay_append_eq_ok replayed
  obtain ⟨tree, gains, keeps⟩ := head.replay first
  obtain ⟨trees, members, around, each, declared, _⟩ := more.replay others
  rw [gains.around] at around
  rw [gains.current] at members
  intro hostKey assignment
  rw [Outline.tree, around, Frame.close, members]
  exact Tree.means_group _ (keeps hostKey assignment) each declared

/-- What is sent for a text is a nested array with the truth of the text, whatever the host key is
and whichever comparisons hold. -/
theorem render_parse_truth {text : String} {query : Query} (parsed : Query.parse text = .ok query) :
    ∃ expression, Accepts KeyChar text expression ∧
      (∀ other, Accepts KeyChar text other → other = expression) ∧
      ∀ hostKey assignment, ∃ sent elements,
        query.render hostKey = .ok (some sent) ∧
        Json.parseUnlimited sent = .ok (.array elements) ∧
        Json.Nested (.array elements) ∧
        (Json.array elements).truth assignment = some (expression.truth hostKey assignment) := by
  cases read : Expression.parse text with
  | error refusal =>
    rw [Query.parse, read] at parsed
    cases parsed
  | ok expression =>
    have accepted := parse_sound read
    refine ⟨expression, accepted, fun other accepted' => accepted'.unique accepted,
      fun hostKey assignment => ?_⟩
    have replayed : Query.empty.replay expression.calls = .ok query := by
      rw [Query.parse, read] at parsed
      exact expression.query_eq_replay.symm.trans parsed
    cases outlined : Outline.empty.replay expression.calls with
    | error refusal =>
      rw [Outline.describes_empty.replay_of_error outlined] at replayed
      cases replayed
    | ok next =>
      obtain ⟨query', done, describes⟩ := Outline.describes_empty.replay_of_ok outlined
      obtain rfl := Except.ok.inj (replayed.symm.trans done)
      obtain ⟨sent, value, rendered, literal, told⟩ :=
        means_of_replay accepted outlined hostKey assignment
      obtain ⟨elements, rfl⟩ := Json.array_of_truth told
      rw [← describes.render_eq] at rendered
      exact ⟨sent, elements, rendered, literal.parse, literal.nested, told⟩

/-- A group, a negation behind it and a glob. -/
theorem render_parse_truth_grouped :
    ∃ query, Query.parse "(F:os=Debian or F:cores>=4) and not web*" = .ok query ∧
      ∀ hostKey assignment, ∃ sent elements,
        query.render hostKey = .ok (some sent) ∧
        Json.parseUnlimited sent = .ok (.array elements) ∧
        (Json.array elements).truth assignment =
          some ((assignment .equal (.array [.string "fact", .string "os"]) "Debian" ||
              assignment .atLeast (.array [.string "fact", .string "cores"]) "4") &&
            !assignment .matching (.string hostKey) "^web.*$") := by
  have read : Expression.parse "(F:os=Debian or F:cores>=4) and not web*" =
      .ok ⟨.group (.atom false (.condition .fact "os" (some (.equal, "Debian"))))
        [(.or, .atom false (.condition .fact "cores" (some (.atLeast, "4"))))],
        [(.and, .atom true (.hosts ["web*"]))]⟩ := by rfl
  obtain ⟨query, parsed⟩ :
      ∃ query, Query.parse "(F:os=Debian or F:cores>=4) and not web*" = .ok query :=
    ⟨_, by rw [Query.parse, read]; rfl⟩
  obtain ⟨expression, accepted, _, means⟩ := render_parse_truth parsed
  have same := parse_complete accepted
  rw [read] at same
  cases same
  refine ⟨query, parsed, fun hostKey assignment => ?_⟩
  obtain ⟨sent, elements, rendered, text, _, told⟩ := means hostKey assignment
  have glob : HostPattern.truth hostKey assignment "web*" =
      assignment .matching (.string hostKey) "^web.*$" := by rfl
  refine ⟨sent, elements, rendered, text, ?_⟩
  rw [told]
  simp [Expression.truth, Item.truthOthers, Item.truth, Atom.truth, Connective.combine, glob]

end Parse

end InventoryQuery
