import InventoryQuery.Text.Utf8
import Mathlib.Data.List.Lex
import Mathlib.Data.UInt
/-! # The order of texts

Texts are compared character by character by their code points. Compared byte by byte in UTF-8 they
come in the same order (`bytes_lt_bytes_iff`): of two characters the smaller one has the smaller byte
at the first place where they differ, and no character begins another one.
-/

namespace InventoryQuery.Text

theorem ofNat_cons_lt_iff {m n : Nat} (small : m < 256) (small' : n < 256)
    {after after' : List UInt8} :
    UInt8.ofNat m :: after < UInt8.ofNat n :: after' ↔ m < n ∨ m = n ∧ after < after' := by
  rw [List.cons_lt_cons_iff, UInt8.lt_iff_toNat_lt, ← UInt8.toNat_inj, UInt8.toNat_ofNat',
    UInt8.toNat_ofNat', Nat.mod_eq_of_lt small, Nat.mod_eq_of_lt small']

/-- Characters in ascending order are in ascending order as bytes, whatever follows them. -/
theorem encodeChar_append_lt {c d : Char} (less : c < d) (after after' : List UInt8) :
    String.utf8EncodeChar c ++ after < String.utf8EncodeChar d ++ after' := by
  have codes : c.val.toNat < d.val.toNat := less
  have bound : d.val.toNat < 0x110000 := by
    rcases d.valid with low | ⟨_, high⟩
    · exact Nat.lt_trans low (by decide)
    · exact high
  simp only [String.utf8EncodeChar]
  generalize c.val.toNat = m at codes
  generalize d.val.toNat = n at codes bound
  -- the digits to base 64, so that each is a part of the one before
  have second (k : Nat) : k / 4096 = k / 64 / 64 := (Nat.div_div_eq_div_mul k 64 64).symm
  have third (k : Nat) : k / 262144 = k / 64 / 64 / 64 := by
    rw [Nat.div_div_eq_div_mul, Nat.div_div_eq_div_mul]
  simp only [second, third]
  split <;> [skip; split <;> [skip; split]] <;>
    (split <;> [skip; split <;> [skip; split]]) <;>
    simp (disch := omega) only [List.cons_append, List.nil_append, ofNat_cons_lt_iff] <;>
    omega

theorem bytes_lt_of_lt {first second : List Char} (less : first < second) :
    bytes first < bytes second := by
  induction first generalizing second with
  | nil =>
    cases second with
    | nil => exact absurd less (List.lt_irrefl _)
    | cons d second =>
      obtain ⟨byte, more, same⟩ := List.exists_cons_of_ne_nil (String.utf8EncodeChar_ne_nil (c := d))
      rw [bytes, bytes, List.flatMap_nil, List.flatMap_cons, same]
      exact List.nil_lt_cons _ _
  | cons c first ih =>
    cases second with
    | nil => exact absurd less (List.not_lt_nil _)
    | cons d second =>
      rw [bytes, bytes, List.flatMap_cons, List.flatMap_cons]
      rcases List.cons_lt_cons_iff.mp less with front | ⟨rfl, behind⟩
      · exact encodeChar_append_lt front _ _
      · exact List.append_left_lt (ih behind)

/-- The order of two texts is the order of their bytes. -/
theorem bytes_lt_bytes_iff {first second : List Char} :
    bytes first < bytes second ↔ first < second := by
  refine ⟨fun less => List.not_le.mp fun notLess => ?_, bytes_lt_of_lt⟩
  rcases List.le_iff_lt_or_eq.mp notLess with after | rfl
  · exact List.lt_asymm less (bytes_lt_of_lt after)
  · exact List.lt_irrefl _ less

end InventoryQuery.Text
