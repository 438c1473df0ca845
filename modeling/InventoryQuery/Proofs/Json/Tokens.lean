import InventoryQuery.Proofs.Json.Literal
import Mathlib.Data.List.TakeWhile
/-! # Texts made of tokens

A JSON text consists of tokens: brackets, commas, colons, string literals, numbers and words. A value
determines its tokens, and the texts of a value are those that consist of them, whatever spacing
stands between two of them. The compact text is the one without spacing (`spaced_tokens`).
-/

namespace InventoryQuery.Json

open Text (isSpacing skipSpacing)

/-- A text that consists of some tokens, with spacing before each and behind the last one. -/
inductive Spaced : List (List Char) → List Char → Prop
  | nil {gap : List Char} (spacing : ∀ c ∈ gap, isSpacing c = true) : Spaced [] gap
  | cons {gap token text : List Char} {tokens : List (List Char)}
      (spacing : ∀ c ∈ gap, isSpacing c = true) (more : Spaced tokens text) :
      Spaced (token :: tokens) (gap ++ (token ++ text))

namespace Spaced

variable {c : Char} {token text : List Char} {tokens : List (List Char)}

theorem front (more : Spaced tokens text) : Spaced (token :: tokens) (token ++ text) :=
  .cons (List.forall_mem_nil _) more

/-- Without spacing, a text is its tokens. -/
theorem compact (tokens : List (List Char)) : Spaced tokens tokens.flatten := by
  induction tokens with
  | nil => exact .nil (List.forall_mem_nil _)
  | cons token tokens ih => exact ih.front

theorem skipSpacing_nil (spaced : Spaced [] text) : skipSpacing text = [] := by
  cases spaced with
  | nil spacing => exact List.dropWhile_eq_nil_iff.mpr spacing

/-- Without the spacing in front of it, a text begins with its first token. -/
theorem exists_skipSpacing (spaced : Spaced ((c :: token) :: tokens) text)
    (visible : isSpacing c = false) :
    ∃ after, skipSpacing text = c :: (token ++ after) ∧ Spaced tokens after := by
  cases spaced with
  | @cons gap _ after _ spacing more =>
    refine ⟨after, ?_, more⟩
    rw [skipSpacing, List.dropWhile_append_of_pos spacing]
    exact skipSpacing_visible visible (token ++ after)

theorem length_flatten_le (spaced : Spaced tokens text) :
    tokens.flatten.length ≤ text.length := by
  induction spaced with
  | nil => exact Nat.zero_le _
  | cons spacing more ih =>
    simp only [List.flatten_cons, List.length_append]
    omega

end Spaced

/-- The tokens of some parts with commas between them, in brackets. -/
def enclosed (opening closing : Char) : List (List (List Char)) → List (List Char)
  | [] => [[opening], [closing]]
  | part :: parts => [opening] :: (part ++ (parts.flatMap ([','] :: ·) ++ [[closing]]))

theorem enclosed_cons_append (opening closing : Char) (part : List (List Char))
    (parts : List (List (List Char))) (tokens : List (List Char)) :
    enclosed opening closing (part :: parts) ++ tokens =
      [opening] :: (part ++ (parts.flatMap ([','] :: ·) ++ [closing] :: tokens)) := by
  simp [enclosed]

theorem length_le_flatten_commas (parts : List (List (List Char))) :
    parts.length ≤ (parts.flatMap ([','] :: ·)).flatten.length := by
  induction parts with
  | nil => exact Nat.zero_le _
  | cons part parts ih =>
    simp only [List.flatMap_cons, List.cons_append, List.flatten_cons, List.flatten_append,
      List.length_append, List.length_cons]
    omega

/-- A text in brackets is longer than the number of parts in it. -/
theorem Spaced.length_lt {part : List (List Char)} {parts : List (List (List Char))}
    {tokens : List (List Char)} {closing : Char} {text : List Char}
    (spaced : Spaced (part ++ (parts.flatMap ([','] :: ·) ++ [closing] :: tokens)) text)
    (filled : part.flatten ≠ []) : parts.length + 1 < text.length := by
  have commas := length_le_flatten_commas parts
  have long := spaced.length_flatten_le
  have some := List.length_pos_iff.mpr filled
  simp only [List.flatten_append, List.flatten_cons, List.length_append, List.length_cons] at long
  omega

mutual

/-- The tokens of a value. -/
def tokens : Json → List (List Char)
  | null => [['n', 'u', 'l', 'l']]
  | bool true => [['t', 'r', 'u', 'e']]
  | bool false => [['f', 'a', 'l', 's', 'e']]
  | number n => [n.text.toList]
  | string text => [(quote text).toList]
  | array elements => enclosed '[' ']' (elementParts elements)
  | object members => enclosed '\x7b' '\x7d' (memberParts members)
termination_by structural value => value

/-- The tokens of each element of an array. -/
def elementParts : List Json → List (List (List Char))
  | [] => []
  | element :: elements => tokens element :: elementParts elements
termination_by structural elements => elements

/-- The tokens of each member of an object. -/
def memberParts : List (String × Json) → List (List (List Char))
  | [] => []
  | (name, value) :: members =>
    ((quote name).toList :: [':'] :: tokens value) :: memberParts members
termination_by structural members => members

end

theorem elementParts_eq (elements : List Json) : elementParts elements = elements.map tokens := by
  induction elements with
  | nil => rfl
  | cons element elements ih => rw [elementParts, ih, List.map_cons]

theorem memberParts_eq (members : List (String × Json)) :
    memberParts members =
      members.map fun member => (quote member.1).toList :: [':'] :: tokens member.2 := by
  induction members with
  | nil => rfl
  | cons member members ih => rw [memberParts, ih, List.map_cons]

mutual

/-- The compact text of a value is made of its tokens alone. -/
theorem flatten_tokens : (value : Json) → value.tokens.flatten = value.write.toList
  | null => rfl
  | bool true => rfl
  | bool false => rfl
  | number n => by simp [tokens, write]
  | string text => by simp [tokens, write]
  | array [] => rfl
  | array (element :: elements) => by
    have first := flatten_tokens element
    have others := flatten_elementParts elements
    simp [tokens, elementParts, enclosed, write, first, others]
  | object [] => rfl
  | object ((name, value) :: members) => by
    have first := flatten_tokens value
    have others := flatten_memberParts members
    simp [tokens, memberParts, enclosed, write, first, others]

theorem flatten_elementParts : (elements : List Json) →
    ((elementParts elements).flatMap ([','] :: ·)).flatten = (writeElements elements).toList
  | [] => rfl
  | element :: elements => by
    have first := flatten_tokens element
    have others := flatten_elementParts elements
    simp [elementParts, writeElements, first, others]

theorem flatten_memberParts : (members : List (String × Json)) →
    ((memberParts members).flatMap ([','] :: ·)).flatten = (writeMembers members).toList
  | [] => rfl
  | (name, value) :: members => by
    have first := flatten_tokens value
    have others := flatten_memberParts members
    simp [memberParts, writeMembers, first, others]

end

/-- The compact text of a value is one of its texts. -/
theorem spaced_tokens (value : Json) : Spaced value.tokens value.write.toList := by
  rw [← value.flatten_tokens]
  exact .compact _

end InventoryQuery.Json
