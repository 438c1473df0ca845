import InventoryQuery.Json.Record
import Mathlib.Tactic.SplitIfs
/-! # Readers of one shape

A reader of values of one shape takes a value exactly if the reader of all values takes it there and
it has the shape, and both leave the same rest. The loop over elements carries this from the
elements to the array.
-/

namespace InventoryQuery.Json

open Text (skipSpacing)

section Outcomes

variable {α β ε : Type} {result : Except ε α} {b : β}

theorem exists_of_map_eq_ok {f : α → β} (found : result.map f = .ok b) :
    ∃ a, result = .ok a ∧ f a = b := by
  cases result with
  | error cause => cases found
  | ok a => exact ⟨a, rfl, Except.ok.inj found⟩

theorem bind_eq_ok_iff {next : α → Except ε β} :
    (result >>= next) = .ok b ↔ ∃ a, result = .ok a ∧ next a = .ok b := by
  cases result <;> simp [bind, Except.bind]

end Outcomes

section Values

variable {allowed : Nat} {text rest : List Char} {value : Json}

theorem readValue_bracket (opens : skipSpacing text = '[' :: rest) :
    readValue (allowed + 1) text = (readElements (readValue allowed) rest.length true rest).map
      fun (elements, rest) => (.array elements, rest) := by
  unfold readValue
  rw [opens]
  rfl

theorem readValue_brace (opens : skipSpacing text = '\x7b' :: rest) :
    readValue (allowed + 1) text = (readMembers (readValue allowed) rest.length true rest).map
      fun (members, rest) => (.object members, rest) := by
  unfold readValue
  rw [opens]
  rfl

theorem readValue_scalar (notArray : ∀ rest, skipSpacing text ≠ '[' :: rest)
    (notObject : ∀ rest, skipSpacing text ≠ '\x7b' :: rest) :
    readValue allowed text = readScalar (skipSpacing text) := by
  unfold readValue
  split
  · next opens => exact absurd opens (notArray _)
  · next opens => exact absurd opens (notObject _)
  · rfl

/-- What is read as a scalar is neither an array nor an object. -/
theorem readScalar_shape (found : readScalar text = .ok (value, rest)) :
    (∀ elements, value ≠ .array elements) ∧ ∀ members, value ≠ .object members := by
  cases text with
  | nil => cases found
  | cons c text =>
    rw [readScalar] at found
    split_ifs at found
    case neg => cases found
    all_goals
      obtain ⟨_, _, same⟩ := exists_of_map_eq_ok found
      cases same
      exact ⟨nofun, nofun⟩

/-- What kind of value is read depends on what the text opens with. -/
theorem readValue_cases (found : readValue (allowed + 1) text = .ok (value, rest)) :
    (∃ inner elements, skipSpacing text = '[' :: inner ∧ value = .array elements ∧
      readElements (readValue allowed) inner.length true inner = .ok (elements, rest)) ∨
    (∃ inner members, skipSpacing text = '\x7b' :: inner ∧ value = .object members ∧
      readMembers (readValue allowed) inner.length true inner = .ok (members, rest)) ∨
    readScalar (skipSpacing text) = .ok (value, rest) := by
  by_cases array : ∃ inner, skipSpacing text = '[' :: inner
  · obtain ⟨inner, opens⟩ := array
    rw [readValue_bracket opens] at found
    obtain ⟨⟨elements, after⟩, read, same⟩ := exists_of_map_eq_ok found
    cases same
    exact .inl ⟨inner, elements, opens, rfl, read⟩
  by_cases object : ∃ inner, skipSpacing text = '\x7b' :: inner
  · obtain ⟨inner, opens⟩ := object
    rw [readValue_brace opens] at found
    obtain ⟨⟨members, after⟩, read, same⟩ := exists_of_map_eq_ok found
    cases same
    exact .inr (.inl ⟨inner, members, opens, rfl, read⟩)
  · rw [readValue_scalar (not_exists.mp array) (not_exists.mp object)] at found
    exact .inr (.inr found)

theorem failShape_ne_ok {α : Type} {expected : String} {text : List Char} {found : α × List Char} :
    failShape expected text ≠ .ok found := by
  intro read
  cases text with
  | nil => cases read
  | cons c text =>
    rw [failShape] at read
    split at read
    · cases read
    split at read
    · cases read
    split at read
    · cases read
    · cases read

end Values

section Whole

variable {α : Type} {reader : Reader α} {text : String} {value : α}

theorem readEnd_eq_ok_iff {text : List Char} {done : Unit} :
    readEnd text = .ok done ↔ skipSpacing text = [] := by
  rw [readEnd]
  split
  · next ends => exact iff_of_true rfl ends
  · next more => exact iff_of_false nofun more

/-- A whole text is a value and spacing behind it. -/
theorem readWhole_eq_ok_iff : readWhole reader text = .ok value ↔
    ∃ rest, reader text.toList = .ok (value, rest) ∧ skipSpacing rest = [] := by
  cases first : reader text.toList with
  | error fault => simp [readWhole, first, bind, Except.bind]
  | ok found =>
    obtain ⟨found, rest⟩ := found
    cases ended : readEnd rest with
    | error fault =>
      have more : skipSpacing rest ≠ [] := by
        intro ends
        have whole : readEnd rest = .ok () := readEnd_eq_ok_iff.mpr ends
        rw [whole] at ended
        cases ended
      simp [readWhole, first, ended, more, bind, Except.bind]
    | ok done =>
      have ends := readEnd_eq_ok_iff.mp ended
      simp only [readWhole, first, ended, bind, Except.bind, pure, Except.pure, Except.ok.injEq,
        Prod.mk.injEq]
      constructor
      · intro same
        exact ⟨rest, ⟨same, rfl⟩, ends⟩
      · rintro ⟨_, ⟨same, _⟩, _⟩
        exact same

end Whole

section Loops

variable {α β : Type} {narrow : Reader α} {wide : Reader β} {shape : α → β}

/-- One reader takes exactly those values of another reader that have a shape. -/
def Narrows (narrow : Reader α) (wide : Reader β) (shape : α → β) : Prop :=
  ∀ text value rest, narrow text = .ok (value, rest) ↔ wide text = .ok (shape value, rest)

/-- How the loop over elements ends, and how it goes on. -/
theorem readElements_succ_eq_ok_iff {element : Reader α} {fuel : Nat} {first : Bool}
    {text rest : List Char} {values : List α} :
    readElements element (fuel + 1) first text = .ok (values, rest) ↔
      (∃ closing, nextElement first text = .ok (false, closing) ∧
        values = [] ∧ rest = closing.drop 1) ∨
      ∃ start value others after, nextElement first text = .ok (true, start) ∧
        element start = .ok (value, after) ∧
        readElements element fuel false after = .ok (others, rest) ∧ values = value :: others := by
  rw [readElements]
  simp only [bind_eq_ok_iff, Prod.exists, Bool.exists_bool, Bool.false_eq_true, if_false, if_true,
    pure, Except.pure, Except.ok.injEq, Prod.mk.injEq]
  grind

theorem Narrows.readElements (narrows : Narrows narrow wide shape) (fuel : Nat) (first : Bool) :
    Narrows (readElements narrow fuel first) (readElements wide fuel first) (List.map shape) := by
  induction fuel generalizing first with
  | zero =>
    intro text values rest
    exact iff_of_false nofun nofun
  | succ fuel ih =>
    intro text values rest
    rw [readElements_succ_eq_ok_iff, readElements_succ_eq_ok_iff]
    refine or_congr (exists_congr fun closing => ?_) (Iff.intro ?_ ?_)
    · rw [List.map_eq_nil_iff]
    · rintro ⟨start, value, others, after, next, head, tail, rfl⟩
      exact ⟨start, shape value, others.map shape, after, next, (narrows _ _ _).mp head,
        (ih false _ _ _).mp tail, rfl⟩
    · rintro ⟨start, value', others', after, next, head, tail, same⟩
      obtain ⟨value, others, rfl, rfl, rfl⟩ := List.map_eq_cons_iff.mp same
      exact ⟨start, value, others, after, next, (narrows _ _ _).mpr head,
        (ih false _ _ _).mpr tail, rfl⟩

end Loops

section Shapes

variable {α : Type} {allowed : Nat} {text rest : List Char}

theorem readValue_eq_array_iff {elements : List Json} :
    readValue (allowed + 1) text = .ok (.array elements, rest) ↔
      ∃ inner, skipSpacing text = '[' :: inner ∧
        readElements (readValue allowed) inner.length true inner = .ok (elements, rest) := by
  constructor
  · intro found
    rcases readValue_cases found with
      ⟨inner, _, opens, same, read⟩ | ⟨_, _, _, other, _⟩ | scalar
    · cases same
      exact ⟨inner, opens, read⟩
    · cases other
    · exact absurd rfl ((readScalar_shape scalar).1 elements)
  · rintro ⟨inner, opens, read⟩
    rw [readValue_bracket opens, read]
    rfl

theorem readValue_eq_object_iff {members : List (String × Json)} :
    readValue (allowed + 1) text = .ok (.object members, rest) ↔
      ∃ inner, skipSpacing text = '\x7b' :: inner ∧
        readMembers (readValue allowed) inner.length true inner = .ok (members, rest) := by
  constructor
  · intro found
    rcases readValue_cases found with
      ⟨_, _, _, other, _⟩ | ⟨inner, _, opens, same, read⟩ | scalar
    · cases other
    · cases same
      exact ⟨inner, opens, read⟩
    · exact absurd rfl ((readScalar_shape scalar).2 members)
  · rintro ⟨inner, opens, read⟩
    rw [readValue_brace opens, read]
    rfl

theorem readList_eq_ok_iff {element : Reader α} {values : List α} :
    readList element text = .ok (values, rest) ↔
      ∃ inner, skipSpacing text = '[' :: inner ∧
        readElements element inner.length true inner = .ok (values, rest) := by
  rw [readList]
  split
  · next ends => simp [ends, failAt]
  · next inner opens => simp [opens]
  · next other _ notArray =>
    refine iff_of_false failShape_ne_ok ?_
    rintro ⟨inner, opens, _⟩
    exact notArray inner opens

theorem readMap_eq_ok_iff {value : Reader α} {members : List (String × α)} :
    readMap value text = .ok (members, rest) ↔
      ∃ inner, skipSpacing text = '\x7b' :: inner ∧
        readMembers value inner.length true inner = .ok (members, rest) := by
  rw [readMap]
  split
  · next ends => simp [ends, failAt]
  · next inner opens => simp [opens]
  · next other _ notObject =>
    refine iff_of_false failShape_ne_ok ?_
    rintro ⟨inner, opens, _⟩
    exact notObject inner opens

/-- An array is read element by element. -/
theorem Narrows.readList {element : Reader α} {shape : α → Json}
    (narrows : Narrows element (readValue allowed) shape) :
    Narrows (readList element) (readValue (allowed + 1)) fun values =>
      .array (values.map shape) := by
  intro text values rest
  rw [readList_eq_ok_iff, readValue_eq_array_iff]
  exact exists_congr fun inner => and_congr_right fun _ =>
    narrows.readElements inner.length true inner values rest

/-- An object is read with values of any shape. -/
theorem narrows_readMap :
    Narrows (readMap (readValue allowed)) (readValue (allowed + 1)) .object := by
  intro text members rest
  rw [readMap_eq_ok_iff, readValue_eq_object_iff]

/-- A whole text is read in a shape exactly if it is read as a value of this shape. -/
theorem Narrows.readWhole_eq_ok_iff {narrow : Reader α} {shape : α → Json}
    (narrows : Narrows narrow (readValue allowed) shape) {text : String} {value : α} :
    readWhole narrow text = .ok value ↔ readWhole (readValue allowed) text = .ok (shape value) := by
  rw [Json.readWhole_eq_ok_iff, Json.readWhole_eq_ok_iff]
  exact exists_congr fun rest => and_congr_left fun _ => narrows text.toList value rest

end Shapes

end InventoryQuery.Json
