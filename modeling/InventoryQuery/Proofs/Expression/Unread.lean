import InventoryQuery.Proofs.Expression.Acceptance
/-! # What is left unread

A reader that fails leaves a part of the text unread that ends the text, and never asks for more of
the text (`Grammar.readWithin_at`). So a text that is no expression is blank, or its error is about
a place of the text.
-/

namespace InventoryQuery

namespace Expression

/-- Reading a text failed at a part that ends it. -/
inductive Failure.At (text : List Char) : Failure → Prop
  | mismatch {unread : List Char} (inside : unread <:+ text) : At text (.mismatch unread)
  | refusal {unread : List Char} (inside : unread <:+ text) : At text (.refusal unread)

namespace Failure.At

variable {text whole : List Char} {failure : Failure}

theorem of_suffix (failed : failure.At text) (inText : text <:+ whole) : failure.At whole := by
  cases failed with
  | mismatch inside => exact .mismatch (inside.trans inText)
  | refusal inside => exact .refusal (inside.trans inText)

theorem append (failed : failure.At text) (front : List Char) : failure.At (front ++ text) :=
  failed.of_suffix (List.suffix_append front text)

theorem exists_unread (failed : failure.At text) :
    ∃ unread, unread <:+ text ∧ failure.toError text = syntaxError text unread := by
  cases failed with
  | mismatch inside | refusal inside => exact ⟨_, inside, rfl⟩

end Failure.At

end Expression

namespace Grammar

open Expression
open Text (isBlank)

section Readers

variable {text : List Char} {failure : Failure}

theorem readHosts_at (failed : readHosts text = .error failure) : failure.At text := by
  rw [readHosts] at failed
  split at failed
  · cases failed
    exact .mismatch List.suffix_rfl
  · cases failed

/-- Only a fact without a comparison is refused behind the place where its condition begins. -/
theorem readAtom_at (failed : readAtom text = .error failure) : failure.At text := by
  rw [readAtom_eq] at failed
  split at failed
  · exact readHosts_at failed
  · next category tail found =>
    split at failed
    · exact readHosts_at failed
    · next key middle taken =>
      split at failed
      · cases failed
      · cases failed
        rw [category?_sound found]
        have inner := (word?_sound isVisibleExcept_iff taken).suffix
        exact .refusal (List.suffix_append_of_suffix (inner.trans (List.suffix_cons _ _)))
      · cases failed

theorem readCondition_at (failed : readCondition text = .error failure) : failure.At text := by
  have ofMap {text : List Char} {negated : Bool}
      (failed : (readAtom text).map (fun found => (Item.atom negated found.1, found.2)) =
        .error failure) : failure.At text := by
    cases read : readAtom text with
    | error failure' =>
      rw [read] at failed
      cases failed
      exact readAtom_at read
    | ok found =>
      rw [read] at failed
      cases failed
  rw [readCondition] at failed
  split at failed
  · next after negation =>
    obtain ⟨middle, taken, behind⟩ := Option.bind_eq_some_iff.mp negation
    obtain ⟨word, _, rfl⟩ := keyword?_sound taken
    obtain ⟨gap, _, _, rfl, _⟩ := spacing?_sound behind
    exact ((ofMap failed).append gap).append word
  · exact ofMap failed

theorem readItem_at {inner : Reader Expression}
    (innerAt : ∀ {text failure}, inner text = .error failure → failure.At text)
    (failed : readItem inner text = .error failure) : failure.At text := by
  unfold readItem at failed
  split at failed
  · next tail =>
    split at failed
    · exact readCondition_at failed
    · next refused =>
      cases failed
      have inside := (Text.skipSpacing_suffix tail).trans (List.suffix_cons '(' tail)
      exact (innerAt refused).of_suffix inside
    · split at failed
      · cases failed
      · exact readCondition_at failed
  · exact readCondition_at failed

theorem readOthers_at {reader : Reader Item}
    (readerAt : ∀ {text failure}, reader text = .error failure → failure.At text)
    (readerSound : ∀ {text rest item},
      reader text = .ok (item, rest) → Derives KeyChar (.item item) text rest)
    {fuel : Nat} (failed : readOthers reader fuel text = .error failure) : failure.At text := by
  induction fuel generalizing text with
  | zero => cases failed
  | succ fuel ih =>
    rw [readOthers] at failed
    split at failed
    · cases failed
    · next connective after joined =>
      have inside := connective?_suffix joined
      split at failed
      · cases failed
      · next refused =>
        cases failed
        exact (readerAt refused).of_suffix inside
      · next next after' found =>
        cases more : readOthers reader fuel after' with
        | error failure' =>
          rw [more] at failed
          cases failed
          exact (ih more).of_suffix ((readerSound found).suffix.trans inside)
        | ok result =>
          rw [more] at failed
          cases failed

theorem readWithin_at {fuel : Nat} (failed : readWithin fuel text = .error failure) :
    failure.At text := by
  induction fuel generalizing text failure with
  | zero =>
    cases failed
    exact .mismatch List.suffix_rfl
  | succ fuel ih =>
    have itemAt {text : List Char} {failure : Failure}
        (failed : readItem (readWithin fuel) text = .error failure) : failure.At text :=
      readItem_at ih failed
    have itemSound {text rest : List Char} {item : Item}
        (read : readItem (readWithin fuel) text = .ok (item, rest)) :
        Derives KeyChar (.item item) text rest := readItem_sound readWithin_sound read
    rw [readWithin] at failed
    cases head : readItem (readWithin fuel) text with
    | error failure' =>
      rw [head] at failed
      cases failed
      exact itemAt head
    | ok first =>
      obtain ⟨first, middle⟩ := first
      simp only [head, bind, Except.bind] at failed
      cases more : readOthers (readItem (readWithin fuel)) middle.length middle with
      | error failure' =>
        rw [more] at failed
        cases failed
        exact (readOthers_at itemAt itemSound more).of_suffix (itemSound head).suffix
      | ok result =>
        rw [more] at failed
        cases failed

end Readers

section Parse

variable {text : String} {refusal : QueryError}

/-- A text is refused because it is blank, or at a part of it that ends it. -/
theorem parse_error_cases (refused : Expression.parse text = .error refusal) :
    (∀ c ∈ text.toList, isBlank c = true) ∧ refusal = .blank ∨
      (∃ c ∈ text.toList, isBlank c = false) ∧
        ∃ unread, unread <:+ text.toList ∧ refusal = syntaxError text.toList unread := by
  simp only [Expression.parse] at refused
  split at refused
  · next blank =>
    cases refused
    exact .inl ⟨List.all_eq_true.mp blank, rfl⟩
  · next visible =>
    have inText := Text.skipSpacing_suffix text.toList
    refine .inr ⟨by simpa using visible, ?_⟩
    split at refused
    · next failure failed =>
      cases refused
      exact ((readWithin_at failed).of_suffix inText).exists_unread
    · next expression rest found =>
      obtain ⟨middle, head, more⟩ := readWithin_sound found
      split at refused
      · cases refused
      · cases refused
        exact ⟨_, (Text.skipSpacing_suffix rest).trans
          (more.suffix.trans (head.suffix.trans inText)), rfl⟩

end Parse

end Grammar

end InventoryQuery
