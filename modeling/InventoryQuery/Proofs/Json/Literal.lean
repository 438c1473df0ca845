import InventoryQuery.Json.Reader
import Mathlib.Data.List.Forall2
/-! # Texts that are read as a value

A text is a literal of a value if the reader takes exactly this text for the value, whatever follows
and however little nesting is allowed beyond the length of the text. String literals and arrays of
literals, written with a comma and a space between the elements, are literals.
-/

namespace InventoryQuery.Json

open Text (isSpacing skipSpacing)

section Strings

theorem hexDigit_unit {n : Nat} (small : n < 0x20) :
    hexUnit? '0' '0' (Text.hexDigit (n / 16)) (Text.hexDigit (n % 16)) = some n := by
  rw [hexUnit?, Text.hexValue?_hexDigit (by omega), Text.hexValue?_hexDigit (by omega)]
  simp only [bind, Option.bind_some, show Text.hexValue? '0' = some 0 from rfl, pure,
    Option.some.injEq]
  omega

theorem readEscape_control {c : Char} (control : c.toNat < 0x20) (rest : List Char) :
    readEscape ('u' :: '0' :: '0' :: Text.hexDigit (c.toNat / 16) ::
      Text.hexDigit (c.toNat % 16) :: rest) = .ok (c, rest) := by
  have noTrailing : isTrailing c.toNat = false := by simp [isTrailing]; omega
  have noLeading : isLeading c.toNat = false := by simp [isLeading]; omega
  simp [readEscape, readUnicode, readUnit, hexDigit_unit control, noTrailing, noLeading, bind,
    Except.bind, pure, Except.pure]

theorem readChars_backslash {c : Char} {after text : List Char}
    (escape : readEscape after = .ok (c, text)) (fuel : Nat) :
    readChars (fuel + 1) ('\\' :: after) =
      (readChars fuel text).map fun (chars, rest) => (c :: chars, rest) := by
  rw [readChars, if_neg (by decide), if_pos rfl, escape]
  simp only [bind, Except.bind]
  cases readChars fuel text <;> rfl

/-- What the writer puts for a character is read back as the character. -/
theorem readChars_escapeChar (c : Char) (fuel : Nat) (text : List Char) :
    readChars (fuel + 1) (escapeChar c ++ text) =
      (readChars fuel text).map fun (chars, rest) => (c :: chars, rest) := by
  rw [escapeChar]
  split
  · next same => subst same; exact readChars_backslash rfl fuel
  split
  · next same => subst same; exact readChars_backslash rfl fuel
  split
  · next same => subst same; exact readChars_backslash rfl fuel
  split
  · next same => subst same; exact readChars_backslash rfl fuel
  split
  · next same => subst same; exact readChars_backslash rfl fuel
  split
  · next same => subst same; exact readChars_backslash rfl fuel
  split
  · next same => subst same; exact readChars_backslash rfl fuel
  split
  · next control => exact readChars_backslash (readEscape_control control text) fuel
  · next quote backslash _ _ _ _ _ control =>
    rw [List.cons_append, List.nil_append, readChars, if_neg quote, if_neg backslash,
      if_neg control]
    cases readChars fuel text <;> rfl

theorem readChars_escaped (chars rest : List Char) {fuel : Nat} (enough : chars.length < fuel) :
    readChars fuel (chars.flatMap escapeChar ++ '\x22' :: rest) = .ok (chars, rest) := by
  induction chars generalizing fuel with
  | nil =>
    obtain ⟨fuel, rfl⟩ : ∃ less, fuel = less + 1 := ⟨fuel - 1, by omega⟩
    rfl
  | cons c chars ih =>
    rw [List.length_cons] at enough
    obtain ⟨fuel, rfl⟩ : ∃ less, fuel = less + 1 := ⟨fuel - 1, by omega⟩
    rw [List.flatMap_cons, List.append_assoc, readChars_escapeChar, ih (by omega)]
    rfl

theorem length_le_escaped (chars : List Char) :
    chars.length ≤ (chars.flatMap escapeChar).length := by
  induction chars with
  | nil => exact Nat.le_refl 0
  | cons c chars ih =>
    have some : 0 < (escapeChar c).length := by
      rw [escapeChar]
      split_ifs <;> exact Nat.zero_lt_succ _
    rw [List.flatMap_cons, List.length_append, List.length_cons]
    omega

theorem readString_quoted (text : String) (rest : List Char) :
    readString (text.toList.flatMap escapeChar ++ '\x22' :: rest) = .ok (text, rest) := by
  have enough : text.toList.length <
      (text.toList.flatMap escapeChar ++ '\x22' :: rest).length := by
    have longer := length_le_escaped text.toList
    rw [List.length_append, List.length_cons]
    omega
  rw [readString, readChars_escaped _ _ enough]
  simp only [bind, Except.bind, pure, Except.pure, String.ofList_toList]

end Strings

/-- Strings and arrays of such values. -/
inductive Nested : Json → Prop
  | string (text : String) : Nested (.string text)
  | array {elements : List Json} (each : ∀ element ∈ elements, Nested element) :
      Nested (.array elements)

/-- A text that is read as a value, whatever follows. -/
structure Literal (text : List Char) (value : Json) : Prop where
  head : ∃ c tail, text = c :: tail ∧ (c = '\x22' ∨ c = '[')
  read : ∀ {allowed : Nat}, text.length ≤ allowed → ∀ rest,
    readValue allowed (text ++ rest) = .ok (value, rest)
  nested : Nested value

theorem readValue_quote (allowed : Nat) (rest : List Char) :
    readValue allowed ('\x22' :: rest) =
      (readString rest).map fun (text, rest) => (.string text, rest) := by
  unfold readValue
  rfl

theorem literal_quote (text : String) : Literal (quote text).toList (.string text) := by
  rw [quote, String.toList_ofList]
  refine ⟨⟨_, _, rfl, .inl rfl⟩, fun {allowed} _ rest => ?_, .string text⟩
  rw [List.cons_append, List.cons_append, List.append_assoc, readValue_quote]
  exact congrArg (Except.map _) (readString_quoted text rest)

section Arrays

variable {α : Type} {element : Reader α} {text : List Char} {texts : List (List Char)}
  {values : List α} {value : α}

/-- Some texts, with a comma and a space before each. -/
def separated (texts : List (List Char)) : List Char :=
  texts.flatMap fun text => ',' :: ' ' :: text

/-- What a loop over elements needs to know of the reader of one of them. -/
structure Element (element : Reader α) (text : List Char) (value : α) : Prop where
  head : ∃ c tail, text = c :: tail ∧ isSpacing c = false ∧ c ≠ ']'
  read : ∀ rest, element (text ++ rest) = .ok (value, rest)

theorem skipSpacing_visible {c : Char} (visible : isSpacing c = false) (rest : List Char) :
    skipSpacing (c :: rest) = c :: rest :=
  List.dropWhile_cons_of_neg (by simp [visible])

theorem Element.nextElement_first (first : Element element text value) (rest : List Char) :
    nextElement true (text ++ rest) = .ok (true, text ++ rest) := by
  obtain ⟨c, tail, rfl, visible, other⟩ := first.head
  rw [List.cons_append, nextElement, skipSpacing_visible visible]
  exact if_neg other

theorem Element.nextElement_comma (next : Element element text value) (rest : List Char) :
    nextElement false (',' :: ' ' :: (text ++ rest)) = .ok (true, text ++ rest) := by
  obtain ⟨c, tail, rfl, visible, other⟩ := next.head
  have skipped : skipSpacing (' ' :: (c :: tail ++ rest)) = c :: (tail ++ rest) :=
    skipSpacing_visible visible (tail ++ rest)
  rw [nextElement, skipSpacing_visible rfl]
  simp only [skipped, other]
  rfl

theorem readElements_separated (elements : List.Forall₂ (Element element) texts values)
    {fuel : Nat} (enough : texts.length < fuel) (rest : List Char) :
    readElements element fuel false (separated texts ++ ']' :: rest) = .ok (values, rest) := by
  induction elements generalizing fuel with
  | nil =>
    obtain ⟨fuel, rfl⟩ : ∃ less, fuel = less + 1 := ⟨fuel - 1, by omega⟩
    rfl
  | @cons text value texts values first others ih =>
    rw [List.length_cons] at enough
    obtain ⟨fuel, rfl⟩ : ∃ less, fuel = less + 1 := ⟨fuel - 1, by omega⟩
    have split : separated (text :: texts) ++ ']' :: rest =
        ',' :: ' ' :: (text ++ (separated texts ++ ']' :: rest)) := by
      simp [separated]
    have more := ih (show texts.length < fuel by omega)
    simp only [split, readElements, first.nextElement_comma, bind, Except.bind, first.read, more,
      pure, Except.pure, if_true]

theorem readElements_first (first : Element element text value)
    (others : List.Forall₂ (Element element) texts values) {fuel : Nat}
    (enough : texts.length + 1 < fuel) (rest : List Char) :
    readElements element fuel true (text ++ (separated texts ++ ']' :: rest)) =
      .ok (value :: values, rest) := by
  obtain ⟨fuel, rfl⟩ : ∃ less, fuel = less + 1 := ⟨fuel - 1, by omega⟩
  have more := readElements_separated others (show texts.length < fuel by omega) rest
  simp only [readElements, first.nextElement_first, bind, Except.bind, first.read, more, pure,
    Except.pure, if_true]

end Arrays

section Values

variable {text : List Char} {texts : List (List Char)} {value : Json} {values : List Json}

theorem Literal.element (literal : Literal text value) {allowed : Nat}
    (enough : text.length ≤ allowed) : Element (readValue allowed) text value := by
  obtain ⟨c, tail, same, letter⟩ := literal.head
  refine ⟨⟨c, tail, same, ?_, ?_⟩, literal.read enough⟩
  · rcases letter with rfl | rfl <;> rfl
  · rcases letter with rfl | rfl <;> decide

theorem elements_of_literals (literals : List.Forall₂ Literal texts values) {allowed : Nat}
    (enough : (separated texts).length ≤ allowed) :
    List.Forall₂ (Element (readValue allowed)) texts values := by
  induction literals with
  | nil => exact .nil
  | @cons text value texts values first others ih =>
    have split : (separated (text :: texts)).length =
        text.length + 2 + (separated texts).length := by
      simp [separated]
      omega
    exact .cons (first.element (by omega)) (ih (by omega))

theorem length_le_separated (texts : List (List Char)) :
    texts.length ≤ (separated texts).length := by
  induction texts with
  | nil => exact Nat.le_refl 0
  | cons text texts ih =>
    rw [separated] at ih ⊢
    rw [List.flatMap_cons, List.length_append, List.length_cons, List.length_cons]
    omega

theorem nested_of_literals (literals : List.Forall₂ Literal texts values) :
    ∀ value ∈ values, Nested value := by
  induction literals with
  | nil => exact fun _ absent => absurd absent List.not_mem_nil
  | cons first _ ih => exact List.forall_mem_cons.mpr ⟨first.nested, ih⟩

/-- An array of literals is a literal. -/
theorem literal_array (first : Literal text value) (others : List.Forall₂ Literal texts values) :
    Literal ('[' :: (text ++ (separated texts ++ [']']))) (.array (value :: values)) := by
  refine ⟨⟨_, _, rfl, .inr rfl⟩, fun {allowed} enough rest => ?_, ?_⟩
  · simp only [List.length_cons, List.length_append, List.length_nil] at enough
    obtain ⟨allowed, rfl⟩ : ∃ less, allowed = less + 1 := ⟨allowed - 1, by omega⟩
    have split : '[' :: (text ++ (separated texts ++ [']'])) ++ rest =
        '[' :: (text ++ (separated texts ++ ']' :: rest)) := by
      simp
    have fuel : texts.length + 1 < (text ++ (separated texts ++ ']' :: rest)).length := by
      have := length_le_separated texts
      obtain ⟨c, tail, same, _⟩ := first.head
      simp only [same, List.length_cons, List.length_append]
      omega
    have read := readElements_first (first.element (show text.length ≤ allowed by omega))
      (elements_of_literals others (show (separated texts).length ≤ allowed by omega)) fuel rest
    rw [split]
    unfold readValue
    exact congrArg (Except.map _) read
  · exact .array (List.forall_mem_cons.mpr ⟨first.nested, nested_of_literals others⟩)

theorem Literal.parse {text : String} (literal : Literal text.toList value) :
    parseUnlimited text = .ok value := by
  have read := literal.read (Nat.le_of_eq String.length_toList) []
  rw [List.append_nil] at read
  rw [parseUnlimited, readWhole]
  simp only [read]
  rfl

end Values

end InventoryQuery.Json
