import InventoryQuery.Proofs.Json.Literal
import InventoryQuery.Proofs.Query.Outcome
/-! # The text of a group with several members

A group with several members has a text exactly if it has a connective and every member has a text:
the connective and the texts of the members, separated by a comma and a space, in brackets. So no
group below a text is empty, and none lacks the connective that it needs.
-/

namespace InventoryQuery

/-- A group that holds something, and has a connective if it holds several things. -/
def Group.Filled (group : Group) : Prop :=
  group.tokens ≠ [] ∧ (2 ≤ group.tokens.length → group.connective ≠ none)

/-- The array text of a connective and some texts. -/
def Connective.arrayText (connective : Connective) (texts : List String) : String :=
  "[" ++ ", ".intercalate (Json.quote connective.text :: texts) ++ "]"

theorem intercalate_cons (separator text : String) (texts : List String) :
    separator.intercalate (text :: texts) = text ++ String.join (texts.map (separator ++ ·)) := by
  induction texts generalizing text with
  | nil => simp
  | cons next texts ih =>
    rw [String.intercalate_cons_cons, ih, List.map_cons, String.join_cons]
    simp only [String.append_assoc]

namespace Tree

open Json (separated)

theorem toList_arrayText (connective : Connective) (texts : List String) :
    (connective.arrayText texts).toList =
      '[' :: ((Json.quote connective.text).toList ++
        (separated (texts.map String.toList) ++ [']'])) := by
  have joined : (String.join (texts.map (", " ++ ·))).toList =
      separated (texts.map String.toList) := by
    simp [separated, List.flatMap_map]
  rw [Connective.arrayText, intercalate_cons]
  simp [joined]

/-- Texts are joined only if every member has one, and then one after the other. -/
theorem joinTexts_eq_ok_iff {connective : Connective} {outcomes : List Rendered}
    {joined : String} :
    joinTexts connective outcomes = .ok joined ↔
      ∃ texts : List String, outcomes = texts.map (fun text => .ok (some text)) ∧
        joined = String.join (texts.map (", " ++ ·)) := by
  constructor
  · intro done
    induction outcomes generalizing joined with
    | nil =>
      cases done
      exact ⟨[], rfl, rfl⟩
    | cons outcome outcomes ih =>
      match outcome with
      | .error refusal => cases done
      | .ok none => cases done
      | .ok (some text) =>
        cases more : joinTexts connective outcomes with
        | error refusal =>
          rw [joinTexts, more] at done
          cases done
        | ok rest =>
          rw [joinTexts, more] at done
          cases done
          obtain ⟨texts, rfl, rfl⟩ := ih more
          exact ⟨text :: texts, rfl, by rw [List.map_cons, String.join_cons]⟩
  · rintro ⟨texts, rfl, rfl⟩
    induction texts with
    | nil => rfl
    | cons text texts ih =>
      rw [List.map_cons, joinTexts, ih, List.map_cons, String.join_cons]
      rfl

/-- A group with several members has a text if it has a connective and its members have texts. -/
theorem join_eq_text_iff {connective : Option Connective} {outcomes : List Rendered}
    (several : 2 ≤ outcomes.length) {text : String} :
    join connective outcomes = .ok (some text) ↔
      ∃ declared texts, connective = some declared ∧
        outcomes = texts.map (fun text => .ok (some text)) ∧ text = declared.arrayText texts := by
  match outcomes, connective with
  | _ :: _ :: _, none => simp [join]
  | first :: second :: others, some declared =>
    rw [join_several]
    constructor
    · intro rendered
      cases done : joinTexts declared (first :: second :: others) with
      | error refusal =>
        rw [done] at rendered
        cases rendered
      | ok joined =>
        rw [done] at rendered
        cases rendered
        obtain ⟨texts, same, rfl⟩ := joinTexts_eq_ok_iff.mp done
        refine ⟨declared, texts, rfl, same, ?_⟩
        rw [Connective.arrayText, intercalate_cons]
        simp only [String.append_assoc]
    · rintro ⟨declared', texts, declares, same, rfl⟩
      obtain rfl := Option.some.inj declares
      rw [joinTexts_eq_ok_iff.mpr ⟨texts, same, rfl⟩, Connective.arrayText, intercalate_cons,
        ← String.append_assoc]
      rfl

/-- Every group of a tree that has a text is filled. -/
theorem filled_of_render {hostKey text : String} {parent : Option Nat} {id : Nat} {group : Group}
    (tree : Tree) (rendered : tree.render hostKey = .ok (some text))
    (met : Stop.group id group ∈ tree.walk parent) : group.Filled := by
  induction tree generalizing parent text with
  | term t => simp at met
  | group id' connective members ih =>
    rw [walk_group] at met
    rw [render_group] at rendered
    match members, connective with
    | [], none => cases rendered
    | [], some _ => cases rendered
    | [member], connective =>
      rw [List.map_singleton, join_single] at rendered
      rcases List.mem_cons.mp met with here | below
      · obtain ⟨_, rfl⟩ := Stop.group.inj here
        exact ⟨by simp, by simp⟩
      · exact ih member List.mem_cons_self rendered (by simpa using below)
    | first :: second :: others, connective =>
      obtain ⟨declared, texts, rfl, same, _⟩ := (join_eq_text_iff (by simp)).mp rendered
      rcases List.mem_cons.mp met with here | below
      · obtain ⟨_, rfl⟩ := Stop.group.inj here
        exact ⟨by simp, by simp⟩
      · obtain ⟨member, present, below⟩ := List.mem_flatMap.mp below
        have outcome : member.render hostKey ∈ texts.map fun text => .ok (some text) :=
          same ▸ List.mem_map_of_mem present
        obtain ⟨memberText, _, found⟩ := List.mem_map.mp outcome
        exact ih member present found.symm below

end Tree

end InventoryQuery
