import InventoryQuery.Proofs.Url.Form
import InventoryQuery.Url.Host
/-! # Host names that are kept as they are written

A host name of small letters, digits and hyphens, in which every label begins with a letter and none
looks like an encoded one, is read as a domain and kept unchanged (`Host.parseDomain_hostText`).
-/

namespace InventoryQuery

namespace Text

/-- What holds of every ASCII character is checked one by one. -/
theorem forall_ascii {P : Char → Prop} (each : ∀ n ∈ List.range 128, P (.ofNat n)) {c : Char}
    (small : c.toNat < 128) : P c := by
  have here := each c.toNat (List.mem_range.mpr small)
  rwa [Char.ofNat_toNat] at here

/-- Where every member of a list has a value, so has the list. -/
theorem mapM_eq_some_map {α β : Type} {f : α → Option β} {g : α → β} {members : List α}
    (each : ∀ member ∈ members, f member = some (g member)) :
    members.mapM f = some (members.map g) := by
  induction members with
  | nil => rfl
  | cons member members ih =>
    rw [List.forall_mem_cons] at each
    rw [List.mapM_cons, each.1, ih each.2]
    rfl

theorem ofBytes?_bytes (text : List Char) : ofBytes? (bytes text) = some text := by
  have read : String.fromUTF8? (String.ofList text).toByteArray = some (String.ofList text) :=
    dif_pos (String.ofList text).isValidUTF8
  have same : (⟨(bytes text).toArray⟩ : ByteArray) = (String.ofList text).toByteArray := by
    rw [String.toByteArray_ofList]
    exact ByteArray.ext List.data_toByteArray.symm
  rw [ofBytes?, same, read, Option.map_some, String.toList_ofList]

/-- Some texts with a separator between them are its parts. -/
theorem split_intercalate {isSeparator : Char → Bool} {separator : Char}
    (separates : isSeparator separator = true) {parts : List (List Char)} (some_part : parts ≠ [])
    (unseparated : ∀ part ∈ parts, ∀ c ∈ part, isSeparator c = false) :
    split isSeparator ([separator].intercalate parts) = parts := by
  induction parts with
  | nil => exact absurd rfl some_part
  | cons part others ih =>
    rw [List.forall_mem_cons] at unseparated
    cases others with
    | nil => rw [List.intercalate_singleton, split_eq_singleton unseparated.1]
    | cons other others =>
      rw [List.intercalate_cons_cons, List.append_assoc, List.singleton_append,
        split_append_separator separates, split_eq_singleton unseparated.1,
        ih (List.cons_ne_nil _ _) unseparated.2, List.singleton_append]

end Text

namespace Url

theorem percentDecode_eq_self {bytes : List UInt8} (other : ∀ byte ∈ bytes, byte ≠ 37) :
    percentDecode bytes = bytes := by
  induction bytes with
  | nil => rfl
  | cons byte bytes ih =>
    rw [List.forall_mem_cons] at other
    rw [percentDecode_cons other.1, ih other.2]

namespace Domain

open Text (normalize)

/-- The characters of a plain label. -/
def isLabelChar (c : Char) : Bool :=
  c.isLower || c.isDigit || c == '-'

/-- A label of small letters, digits and hyphens that begins with a letter and not with the mark of
an encoded label. -/
structure IsPlain (label : List Char) : Prop where
  letter : label.head?.any Char.isLower = true
  chars : label.all isLabelChar = true
  unmarked : encodedMark.isPrefixOf label = false

instance (label : List Char) : Decidable (IsPlain label) :=
  decidable_of_iff (label.head?.any Char.isLower = true ∧ label.all isLabelChar = true ∧
      encodedMark.isPrefixOf label = false)
    ⟨fun ⟨letter, chars, unmarked⟩ => ⟨letter, chars, unmarked⟩,
      fun plain => ⟨plain.letter, plain.chars, plain.unmarked⟩⟩

/-- A host name: plain labels with dots between them. -/
structure IsPlainHost (labels : List (List Char)) : Prop where
  some_label : labels ≠ []
  plain : ∀ label ∈ labels, IsPlain label

instance (labels : List (List Char)) : Decidable (IsPlainHost labels) :=
  decidable_of_iff (labels ≠ [] ∧ ∀ label ∈ labels, IsPlain label)
    ⟨fun ⟨some_label, plain⟩ => ⟨some_label, plain⟩, fun host => ⟨host.some_label, host.plain⟩⟩

/-- The text of a host name. -/
def hostText (labels : List (List Char)) : List Char :=
  ['.'].intercalate labels

/-- The characters of a host name. -/
def isHostChar (c : Char) : Bool :=
  isLabelChar c || c == '.'

section HostChars

variable {c : Char} {text : List Char}

theorem isPlain_of_isHostChar (plain : isHostChar c = true) : Form.isPlain c = true := by
  simp only [isHostChar, isLabelChar, Bool.or_eq_true, beq_iff_eq] at plain
  rcases plain with ((letter | digit) | rfl) | rfl
  · have alphanumeric : c.isAlphanum = true := by
      change (c.isUpper || c.isLower || c.isDigit) = true
      rw [letter, Bool.or_true, Bool.true_or]
    rw [Form.isPlain, alphanumeric, Bool.true_or, Bool.true_or, Bool.true_or, Bool.true_or]
  · have alphanumeric : c.isAlphanum = true := by
      change (c.isAlpha || c.isDigit) = true
      rw [digit, Bool.or_true]
    rw [Form.isPlain, alphanumeric, Bool.true_or, Bool.true_or, Bool.true_or, Bool.true_or]
  · rfl
  · rfl

/-- What holds of every character of a host name is checked one by one. -/
theorem of_isHostChar {P : Char → Prop}
    (each : ∀ n ∈ List.range 128, isHostChar (.ofNat n) = true → P (.ofNat n))
    (plain : isHostChar c = true) : P c :=
  Text.forall_ascii (P := fun c => isHostChar c = true → P c) each
    (Form.toNat_lt_of_isPlain (isPlain_of_isHostChar plain)) plain

theorem toNat_lt_of_isHostChar (plain : isHostChar c = true) : c.toNat < 128 :=
  Form.toNat_lt_of_isPlain (isPlain_of_isHostChar plain)

theorem toLower_of_isHostChar (plain : isHostChar c = true) : c.toLower = c :=
  of_isHostChar (P := fun c => c.toLower = c) (by decide +kernel) plain

theorem isForbidden_of_isHostChar (plain : isHostChar c = true) : isForbidden c = false :=
  of_isHostChar (P := fun c => isForbidden c = false) (by decide +kernel) plain

theorem isHostChar_of_isLower (letter : c.isLower = true) : isHostChar c = true := by
  rw [isHostChar, isLabelChar, letter, Bool.true_or, Bool.true_or, Bool.true_or]

/-- A small letter is no decimal digit, is worth ten or more as a digit of another base, and opens no
bracket. -/
theorem isLower_spec (letter : c.isLower = true) :
    c.isDigit = false ∧ (Text.hexValue? c).all (10 ≤ ·) = true ∧ c ≠ '[' :=
  of_isHostChar (P := fun c => c.isLower = true → c.isDigit = false ∧
    (Text.hexValue? c).all (10 ≤ ·) = true ∧ c ≠ '[') (by decide +kernel)
    (isHostChar_of_isLower letter) letter

theorem percentDecode_bytes (each : ∀ c ∈ text, isHostChar c = true) :
    percentDecode (Text.bytes text) = Text.bytes text := by
  apply percentDecode_eq_self
  intro byte present
  obtain ⟨c, inText, present⟩ := List.mem_flatMap.mp present
  obtain ⟨-, own, other, encoded⟩ := Form.encoded_of_isPlain (isPlain_of_isHostChar (each c inText))
  rw [encoded, List.mem_singleton] at present
  rwa [present]

theorem mapM_map? (each : ∀ c ∈ text, isHostChar c = true) :
    text.mapM map? = some (text.map ([·])) := by
  apply Text.mapM_eq_some_map
  intro c present
  rw [map?, if_pos (toNat_lt_of_isHostChar (each c present)),
    toLower_of_isHostChar (each c present)]

theorem normalize_eq_self (each : ∀ c ∈ text, isHostChar c = true) : normalize text = text := by
  apply if_pos
  rw [List.all_eq_true]
  intro c present
  exact decide_eq_true (Nat.lt_trans (toNat_lt_of_isHostChar (each c present)) (by decide))

theorem any_isForbidden (each : ∀ c ∈ text, isHostChar c = true) :
    text.any isForbidden = false := by
  rw [List.any_eq_false]
  intro c present
  rw [isForbidden_of_isHostChar (each c present)]
  exact Bool.false_ne_true

theorem any_runsRightToLeft (each : ∀ c ∈ text, isHostChar c = true) :
    text.any runsRightToLeft = false := by
  rw [List.any_eq_false]
  intro c present
  have small := toNat_lt_of_isHostChar (each c present)
  have before : ¬ 0x590 ≤ c.toNat := by omega
  simp [runsRightToLeft, before]

end HostChars

section Labels

variable {label : List Char} {labels : List (List Char)}

theorem IsPlain.hostChars (plain : IsPlain label) : ∀ c ∈ label, isHostChar c = true := by
  intro c present
  rw [isHostChar, List.all_eq_true.mp plain.chars c present, Bool.true_or]

theorem IsPlain.exists_letter (plain : IsPlain label) :
    ∃ c rest, label = c :: rest ∧ c.isLower = true := by
  have letter := plain.letter
  cases label with
  | nil => cases letter
  | cons c rest => exact ⟨c, rest, rfl, letter⟩

theorem IsPlain.no_dot (plain : IsPlain label) : ∀ c ∈ label, (c == '.') = false := by
  intro c present
  rw [beq_eq_false_iff_ne]
  rintro rfl
  cases List.all_eq_true.mp plain.chars '.' present

theorem IsPlain.read?_eq (plain : IsPlain label) : Label.read? label = some ⟨label, label⟩ := by
  have ascii : label.all isAscii = true := by
    rw [List.all_eq_true]
    intro c present
    exact decide_eq_true (toNat_lt_of_isHostChar (plain.hostChars c present))
  rw [Label.read?, plain.unmarked, if_neg Bool.false_ne_true, if_pos ascii]

theorem isHostChar_of_mem (each : ∀ label ∈ labels, IsPlain label) :
    ∀ c ∈ hostText labels, isHostChar c = true := by
  induction labels with
  | nil => exact List.forall_mem_nil _
  | cons label others ih =>
    rw [List.forall_mem_cons] at each
    cases others with
    | nil =>
      rw [hostText, List.intercalate_singleton]
      exact each.1.hostChars
    | cons other others =>
      rw [hostText, List.intercalate_cons_cons, List.append_assoc, List.forall_mem_append]
      exact ⟨each.1.hostChars, List.forall_mem_cons.mpr ⟨rfl, ih each.2⟩⟩

theorem IsPlainHost.hostChars (host : IsPlainHost labels) :
    ∀ c ∈ hostText labels, isHostChar c = true :=
  isHostChar_of_mem host.plain

/-- A host name begins with a letter. -/
theorem IsPlainHost.exists_letter (host : IsPlainHost labels) :
    ∃ c rest, hostText labels = c :: rest ∧ c.isLower = true := by
  cases labels with
  | nil => exact absurd rfl host.some_label
  | cons label others =>
    obtain ⟨c, rest, rfl, letter⟩ := (host.plain label List.mem_cons_self).exists_letter
    cases others with
    | nil => exact ⟨c, rest, List.intercalate_singleton, letter⟩
    | cons other others =>
      refine ⟨c, rest ++ (['.'] ++ hostText (other :: others)), ?_, letter⟩
      rw [hostText, List.intercalate_cons_cons, List.append_assoc, List.cons_append, hostText]

theorem IsPlainHost.split_eq (host : IsPlainHost labels) :
    Text.split (· == '.') (hostText labels) = labels :=
  Text.split_intercalate rfl host.some_label fun label present => (host.plain label present).no_dot

theorem IsPlainHost.toAscii?_eq (host : IsPlainHost labels) :
    toAscii? (hostText labels) = some (hostText labels) := by
  have chars := host.hostChars
  have read : labels.mapM Label.read? = some (labels.map fun label => ⟨label, label⟩) :=
    Text.mapM_eq_some_map fun label present => (host.plain label present).read?_eq
  have leftward : (labels.map fun label => Label.mk label label).any
      (·.text.any runsRightToLeft) = false := by
    rw [List.any_map, List.any_eq_false]
    intro label present
    rw [Function.comp_apply, any_runsRightToLeft (host.plain label present).hostChars]
    exact Bool.false_ne_true
  have whole : (labels.map fun label => Label.mk label label).map (·.ascii) = labels := by
    rw [List.map_map]
    exact List.map_id labels
  have flat : ((hostText labels).map ([·])).flatten = hostText labels := by
    rw [← List.flatMap_def]
    exact List.flatMap_singleton' _
  -- both guards are passed: nothing is forbidden, and nothing runs from right to left
  have passed : (guard (true = true) : Option Unit) = some () := rfl
  rw [toAscii?, mapM_map? chars, Option.bind_eq_bind, Option.bind_some, flat,
    normalize_eq_self chars]
  dsimp only
  rw [any_isForbidden chars, Bool.not_false, passed, host.split_eq, read, Option.bind_eq_bind,
    Option.bind_some, Option.bind_eq_bind, Option.bind_some, leftward,
    Bool.not_false, Bool.true_or, passed, whole]
  rfl

end Labels

end Domain

namespace Ipv4

open Domain (IsPlainHost hostText)

/-- What begins with a letter is no number. -/
theorem part?_of_isLower {c : Char} {rest : List Char} (letter : c.isLower = true) :
    part? (c :: rest) = none := by
  obtain ⟨noDigit, large, -⟩ := Domain.isLower_spec letter
  have other : c ≠ '0' := by
    rintro rfl
    cases noDigit
  have decimal : numberIn? 10 (c :: rest) = none := by
    rw [numberIn?, List.foldlM_cons]
    cases value : Text.hexValue? c with
    | none => rfl
    | some digit =>
      have beyond : ¬ digit < 10 := by simpa [value] using large
      have refused : (guard (digit < 10) : Option Unit) = none := if_neg beyond
      change ((guard (digit < 10) : Option Unit).bind _).bind _ = none
      rw [refused]
      rfl
  unfold part?
  split
  · next same => cases same
  · next same => exact absurd (List.cons.inj same).1 other
  · next same => exact absurd (List.cons.inj same).1 other
  · next same => exact absurd (List.cons.inj same).1 other
  · exact decimal

theorem isNumeric_hostText {labels : List (List Char)} (host : IsPlainHost labels) :
    isNumeric (hostText labels) = false := by
  have ends := List.getLast?_eq_some_getLast host.some_label
  obtain ⟨c, rest, last, letter⟩ :=
    (host.plain _ (List.getLast_mem host.some_label)).exists_letter
  rw [last] at ends
  have whole : parts (hostText labels) = labels := by
    rw [parts, dotParts, host.split_eq, ends, if_neg (by simp)]
  have letters : (c :: rest).all Char.isDigit = false := by
    rw [List.all_cons, (Domain.isLower_spec letter).1, Bool.false_and]
  rw [isNumeric, whole, ends]
  simp [part?_of_isLower letter, letters]

end Ipv4

open Domain in
/-- A host name is read as a domain and kept as it is written. -/
theorem Host.parseDomain_hostText {labels : List (List Char)} (host : IsPlainHost labels) :
    parseDomain (hostText labels) = .ok (.domain (String.ofList (hostText labels))) := by
  obtain ⟨c, rest, begins, letter⟩ := host.exists_letter
  have unbracketed : bracketed? (hostText labels) = none := by
    rw [begins, bracketed?]
    exact fun inner same => (isLower_spec letter).2.2 (List.cons.inj same).1
  have nonempty : (hostText labels).isEmpty = false := by
    rw [begins, List.isEmpty_cons]
  have numeric := Ipv4.isNumeric_hostText host
  have read : (Text.ofBytes? (percentDecode (Text.bytes (hostText labels)))).bind toAscii? =
      some (hostText labels) := by
    rw [percentDecode_bytes host.hostChars, Text.ofBytes?_bytes, Option.bind_some,
      host.toAscii?_eq]
  rw [parseDomain, unbracketed]
  simp only [read, nonempty, numeric, Bool.false_eq_true, if_false]

end Url

end InventoryQuery
