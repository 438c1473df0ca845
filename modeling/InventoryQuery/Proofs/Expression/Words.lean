import InventoryQuery.Expression.Reader
import InventoryQuery.Proofs.Expression.Grammar
/-! # Words and the characters between them

What the readers of words, spacing, comparisons and values take is what the grammar has for them.
The converse needs a look at what follows: a reader takes the longest word, so it finds the word of
a derivation only if the next character is of another class.
-/

namespace InventoryQuery.Grammar

open Expression
open Text (isBlank isSpacing skipSpacing)

theorem isSpacing_iff {c : Char} :
    isSpacing c = true ↔ c = ' ' ∨ c = '\t' ∨ c = '\r' ∨ c = '\n' := by
  simp [isSpacing, or_assoc]

/-- The text does not begin with spacing. -/
def Unspaced (text : List Char) : Prop :=
  ∀ c ∈ text.head?, isSpacing c = false

theorem unspaced_of_not_blank {c : Char} (visible : isBlank c = false) (rest : List Char) :
    Unspaced (c :: rest) := by
  rintro d first
  cases first
  exact Bool.eq_false_iff.mpr fun spacing => by
    simp [Text.isBlank_of_isSpacing spacing] at visible

theorem exists_spacing (text : List Char) :
    ∃ gap, Spacing gap ∧ text = gap ++ skipSpacing text := by
  refine ⟨text.takeWhile isSpacing, fun c taken => ?_, List.takeWhile_append_dropWhile.symm⟩
  exact isSpacing_iff.mp (List.all_eq_true.mp List.all_takeWhile c taken)

theorem Unspaced.skipSpacing_eq {text : List Char} (unspaced : Unspaced text) :
    skipSpacing text = text := by
  cases text with
  | nil => rfl
  | cons c text => exact List.dropWhile_cons_of_neg (by simp [unspaced c rfl])

theorem Spacing.skipSpacing_append {gap : List Char} (spacing : Spacing gap) (text : List Char) :
    skipSpacing (gap ++ text) = skipSpacing text :=
  List.dropWhile_append_of_pos fun c present => isSpacing_iff.mpr (spacing c present)

theorem Spacing.isSpacing_head {c : Char} {gap : List Char} (spacing : Spacing (c :: gap)) :
    isSpacing c = true :=
  isSpacing_iff.mpr (spacing c List.mem_cons_self)

theorem Spacing.isBlank_head {c : Char} {gap : List Char} (spacing : Spacing (c :: gap)) :
    isBlank c = true :=
  Text.isBlank_of_isSpacing spacing.isSpacing_head

theorem spacing?_sound {text rest : List Char} (taken : spacing? text = some rest) :
    ∃ gap, Spacing gap ∧ gap ≠ [] ∧ text = gap ++ rest ∧ rest = skipSpacing text := by
  cases text with
  | nil => cases taken
  | cons c text =>
    rw [spacing?] at taken
    split at taken
    · next spacing =>
      have skipped : skipSpacing (c :: text) = skipSpacing text :=
        List.dropWhile_cons_of_pos spacing
      cases taken
      obtain ⟨gap, gapSpacing, same⟩ := exists_spacing text
      refine ⟨c :: gap, ?_, by simp, ?_, skipped.symm⟩
      · rintro d (_ | ⟨_, present⟩)
        · exact isSpacing_iff.mp spacing
        · exact gapSpacing d present
      · rw [List.cons_append, ← same]
    · cases taken

theorem spacing?_complete {gap text : List Char} (spacing : Spacing gap) (apart : gap ≠ [])
    (unspaced : Unspaced text) : spacing? (gap ++ text) = some text := by
  obtain ⟨c, gap, rfl⟩ := List.exists_cons_of_ne_nil apart
  rw [List.cons_append, spacing?, if_pos spacing.isSpacing_head,
    Spacing.skipSpacing_append (fun d present => spacing d (List.mem_cons_of_mem _ present)),
    unspaced.skipSpacing_eq]

theorem keyword?_sound {keyword : String} {text rest : List Char}
    (taken : keyword? keyword text = some rest) :
    ∃ word, Spells word keyword ∧ text = word ++ rest := by
  rw [keyword?] at taken
  split at taken
  · next spelled =>
    cases taken
    exact ⟨_, spelled, (List.take_append_drop _ _).symm⟩
  · cases taken

theorem Spells.length_eq {word : List Char} {keyword : String} (spelled : Spells word keyword) :
    word.length = keyword.toList.length := by
  rw [← spelled, List.length_map]

theorem keyword?_complete {keyword : String} {word : List Char} (spelled : Spells word keyword)
    (rest : List Char) : keyword? keyword (word ++ rest) = some rest := by
  rw [keyword?, ← spelled.length_eq, List.take_left, List.drop_left]
  exact if_pos spelled

/-- A text whose first letter is another one has no keyword in front. -/
theorem keyword?_cons_of_ne {keyword : String} {letter c : Char} {letters : List Char}
    (spelling : keyword.toList = letter :: letters) (other : c.toLower ≠ letter)
    (rest : List Char) : keyword? keyword (c :: rest) = none := by
  simp [keyword?, spelling, other]

theorem isVisibleExcept_iff {excluded : List Char} {c : Char} :
    isVisibleExcept excluded c = true ↔ VisibleExcept excluded c := by
  simp [isVisibleExcept, VisibleExcept, List.forall_mem_ne]

/-- No blank character may stand in a word of any class. -/
theorem isVisibleExcept_of_blank {excluded : List Char} {c : Char} (blank : isBlank c = true) :
    isVisibleExcept excluded c = false := by
  simp [isVisibleExcept, blank]

theorem isKeyword_iff {word : List Char} :
    isKeyword word = true ↔ ∃ keyword ∈ ["and", "or", "not"], Spells word keyword := by
  simp [isKeyword, Spells]

section Word

variable {isWordChar : Char → Bool} {kind : Char → Prop} {text rest : List Char} {word : String}

theorem word?_sound (same : ∀ {c}, isWordChar c = true ↔ kind c)
    (taken : word? isWordChar text = some (word, rest)) : Word kind text rest word := by
  rw [word?] at taken
  split at taken
  · cases taken
  · next nonempty =>
    cases taken
    refine ⟨?_, ?_, ?_⟩
    · rw [String.toList_ofList, List.takeWhile_append_dropWhile]
    · rw [String.toList_ofList]
      exact nonempty
    · intro c present
      rw [String.toList_ofList] at present
      exact same.mp (List.all_eq_true.mp List.all_takeWhile c present)

/-- The word of a derivation is the longest one if what follows is of another class. -/
theorem Word.takeWhile_eq (same : ∀ {c}, isWordChar c = true ↔ kind c)
    (run : Word kind text rest word) (stop : ∀ c ∈ rest.head?, isWordChar c = false) :
    text.takeWhile isWordChar = word.toList ∧ text.dropWhile isWordChar = rest := by
  have all : ∀ c ∈ word.toList, isWordChar c = true := fun c present => same.mpr (run.all c present)
  rw [run.split, List.takeWhile_append_of_pos all, List.dropWhile_append_of_pos all]
  cases rest with
  | nil => simp
  | cons c rest =>
    have other : ¬isWordChar c = true := by simp [stop c rfl]
    rw [List.takeWhile_cons_of_neg other, List.dropWhile_cons_of_neg other]
    simp

theorem word?_complete (same : ∀ {c}, isWordChar c = true ↔ kind c)
    (run : Word kind text rest word) (stop : ∀ c ∈ rest.head?, isWordChar c = false) :
    word? isWordChar text = some (word, rest) := by
  obtain ⟨taken, dropped⟩ := run.takeWhile_eq same stop
  rw [word?, taken, dropped]
  split
  · next empty => exact absurd empty run.nonempty
  · rw [String.ofList_toList]

theorem Word.head (run : Word kind text rest word) : ∃ c tail, text = c :: tail ∧ kind c := by
  obtain ⟨c, tail, same⟩ := List.exists_cons_of_ne_nil run.nonempty
  exact ⟨c, tail ++ rest, by rw [run.split, same, List.cons_append],
    run.all c (by rw [same]; exact List.mem_cons_self)⟩

end Word

end InventoryQuery.Grammar
