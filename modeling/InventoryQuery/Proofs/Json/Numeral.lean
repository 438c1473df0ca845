import InventoryQuery.Json.NumberReader
/-! # Whole numbers in JSON texts

A whole number is written without leading zeros and is read back exactly as long as it fits in 64
bits, whatever follows that could not go on with it.
-/

namespace InventoryQuery.Json

/-- A text that does not go on with a whole number before it. -/
def EndsNumber (rest : List Char) : Prop :=
  ∀ c ∈ rest.head?, c.isDigit = false ∧ c ≠ '.' ∧ c ≠ 'e' ∧ c ≠ 'E'

section Digits

variable {digits rest : List Char} {n count : Nat}

theorem EndsNumber.startsWithDigit_eq (ends : EndsNumber rest) : startsWithDigit rest = false := by
  cases rest with
  | nil => rfl
  | cons c rest => exact (ends c rfl).1

theorem le_ofDigitChars (digits : List Char) (n : Nat) : n ≤ Nat.ofDigitChars 10 digits n := by
  rw [Nat.ofDigitChars_eq_ofDigitChars_zero]
  have grows : n ≤ 10 ^ digits.length * n := Nat.le_mul_of_pos_left n (Nat.pow_pos (by decide))
  omega

/-- As long as their value fits, all digits are taken. -/
theorem takeDigits_append (each : ∀ c ∈ digits, c.isDigit = true)
    (fits : Nat.ofDigitChars 10 digits n ≤ maxSignificand)
    (ends : startsWithDigit rest = false) :
    takeDigits n count (digits ++ rest) =
      (Nat.ofDigitChars 10 digits n, count + digits.length, rest) := by
  induction digits generalizing n count with
  | nil =>
    cases rest with
    | nil => rfl
    | cons c rest =>
      have other : ¬(c.isDigit = true ∧ n * 10 + digitValue c ≤ maxSignificand) := by
        rw [startsWithDigit] at ends
        simp [ends]
      rw [List.nil_append, takeDigits, if_neg other]
      rfl
  | cons c digits ih =>
    rw [List.forall_mem_cons] at each
    have value : 10 * n + (c.toNat - '0'.toNat) = n * 10 + digitValue c := by
      rw [Nat.mul_comm]
      rfl
    rw [Nat.ofDigitChars_cons, value] at fits ⊢
    have within := Nat.le_trans (le_ofDigitChars digits (n * 10 + digitValue c)) fits
    rw [List.cons_append, takeDigits, if_pos ⟨each.1, within⟩, ih each.2 fits,
      List.length_cons, Nat.add_assoc, Nat.add_comm 1]

/-- The first digit of a positive number is no zero. -/
theorem exists_toDigits_eq_cons (positive : 0 < n) :
    ∃ c digits, Nat.toDigits 10 n = c :: digits ∧ c ≠ '0' := by
  induction n using Nat.strongRecOn with
  | ind n ih =>
    rw [Nat.toDigits_eq_if (by decide)]
    split
    · next small =>
      refine ⟨_, _, rfl, fun zero => ?_⟩
      exact absurd (Nat.digitChar_eq_zero.mp zero) (Nat.ne_of_gt positive)
    · next large =>
      obtain ⟨c, digits, same, other⟩ := ih (n / 10) (by omega) (by omega)
      exact ⟨c, _, congrArg (· ++ _) same, other⟩

theorem readAfterInteger_end (ends : EndsNumber rest) :
    readAfterInteger false n rest = .ok (.natural n, rest) := by
  cases rest with
  | nil => rfl
  | cons c rest =>
    obtain ⟨_, point, small, capital⟩ := ends c rfl
    rw [readAfterInteger, if_neg point, if_neg (not_or.mpr ⟨small, capital⟩)]
    rfl

theorem readUnsigned_toDigits (fits : n ≤ maxSignificand) (ends : EndsNumber rest) :
    readUnsigned false (Nat.toDigits 10 n ++ rest) = .ok (.natural n, rest) := by
  rcases Nat.eq_zero_or_pos n with rfl | positive
  · rw [Nat.toDigits_zero, List.singleton_append, readUnsigned, if_pos rfl, ends.startsWithDigit_eq]
    exact readAfterInteger_end ends
  · obtain ⟨c, digits, same, other⟩ := exists_toDigits_eq_cons positive
    have each : ∀ d ∈ c :: digits, d.isDigit = true := fun d present =>
      Nat.isDigit_of_mem_toDigits (by decide) (by decide) (same ▸ present)
    have value : Nat.ofDigitChars 10 digits (digitValue c) = n := by
      have whole := Nat.ofDigitChars_ten_toDigits (n := n)
      rwa [same, Nat.ofDigitChars_cons, Nat.mul_zero, Nat.zero_add] at whole
    rw [List.forall_mem_cons] at each
    rw [same, List.cons_append, readUnsigned, if_neg other, if_pos each.1,
      takeDigits_append each.2 (value.symm ▸ fits) ends.startsWithDigit_eq, value]
    simp only [ends.startsWithDigit_eq, Bool.false_eq_true, if_false]
    exact readAfterInteger_end ends

/-- A whole number that fits is read back. -/
theorem readNumber_toDigits (fits : n ≤ maxSignificand) (ends : EndsNumber rest) :
    readNumber (Nat.toDigits 10 n ++ rest) = .ok (.natural n, rest) := by
  have read := readUnsigned_toDigits fits ends
  obtain ⟨c, digits, same⟩ := List.exists_cons_of_ne_nil (Nat.toDigits_ne_nil (n := n) (b := 10))
  have digit : c.isDigit = true :=
    Nat.isDigit_of_mem_toDigits (by decide) (by decide) (same ▸ List.mem_cons_self)
  rw [same, List.cons_append] at read ⊢
  rw [readNumber, read]
  intro unsigned sign
  rw [(List.cons.inj sign).1] at digit
  exact absurd digit (by decide)

end Digits

end InventoryQuery.Json
