import InventoryQuery.Proofs.Expression.Demand
/-! # Dividing resource keys

A key is divided at its first separator, and nothing is lost: what is read from a key is the only
one that is written as this key. `Regular` says which parts a key can be divided into; exactly these
are read back from their text.
-/

namespace InventoryQuery.ResourceKey

/-- A type without separators that is not empty, and a selector without the other separator. -/
def Regular (parsed : ResourceKey) : Prop :=
  parsed.resourceType ≠ "" ∧ '@' ∉ parsed.resourceType.toList ∧
    '%' ∉ parsed.resourceType.toList ∧
    match parsed with
    | type _ => True
    | parameter _ name => '@' ∉ name.toList
    | field _ name => '%' ∉ name.toList

section Splitting

variable {separator : Char} {text : List Char}

theorem toList_split (present : separator ∈ text) :
    (split separator text).1.toList ++ separator :: (split separator text).2.toList = text := by
  rw [split, String.toList_ofList, String.toList_ofList, ← dropWhile_ne present,
    List.takeWhile_append_dropWhile]

theorem not_mem_split_fst : separator ∉ (split separator text).1.toList := by
  rw [split, String.toList_ofList]
  intro present
  simpa using List.mem_takeWhile_imp present

/-- Where no separator stands before it, the first separator is the place of the split. -/
theorem split_append {front : String} (first : separator ∉ front.toList) (back : String) :
    split separator (front.toList ++ separator :: back.toList) = (front, back) := by
  have before : ∀ c ∈ front.toList, decide (c ≠ separator) = true := fun c present =>
    decide_eq_true fun same => first (same ▸ present)
  rw [split, List.takeWhile_append_of_pos before, List.dropWhile_append_of_pos before,
    List.takeWhile_cons_of_neg (by simp), List.dropWhile_cons_of_neg (by simp), List.append_nil,
    String.ofList_toList, List.drop_one, List.tail_cons, String.ofList_toList]

end Splitting

section Keys

variable {key : String}

theorem text_divided (key : String) : (divided key).text = key := by
  rw [divided]
  apply String.toList_injective
  split
  · next atSign => simpa [text] using toList_split atSign
  split
  · next percent => simpa [text] using toList_split percent
  · rfl

/-- What a split leaves on either side of the separator is part of the text. -/
theorem mem_of_mem_split {separator c : Char} {text : List Char} (present : separator ∈ text)
    (inside : c ∈ (split separator text).1.toList ∨ c ∈ (split separator text).2.toList) :
    c ∈ text := by
  rw [← toList_split present, List.mem_append, List.mem_cons]
  exact inside.imp_right .inr

theorem regular_divided (single : ¬('@' ∈ key.toList ∧ '%' ∈ key.toList))
    (named : (divided key).resourceType ≠ "") : (divided key).Regular := by
  refine ⟨named, ?_⟩
  rw [divided]
  by_cases atSign : '@' ∈ key.toList
  · have noPercent : '%' ∉ key.toList := fun percent => single ⟨atSign, percent⟩
    rw [if_pos atSign]
    exact ⟨not_mem_split_fst, fun inside => noPercent (mem_of_mem_split atSign (.inl inside)),
      fun inside => noPercent (mem_of_mem_split atSign (.inr inside))⟩
  · rw [if_neg atSign]
    by_cases percent : '%' ∈ key.toList
    · rw [if_pos percent]
      exact ⟨fun inside => atSign (mem_of_mem_split percent (.inl inside)), not_mem_split_fst,
        fun inside => atSign (mem_of_mem_split percent (.inr inside))⟩
    · rw [if_neg percent]
      exact ⟨atSign, percent, trivial⟩

/-- A regular key is found again in its text. -/
theorem Regular.divided_text {parsed : ResourceKey} (regular : parsed.Regular) :
    divided parsed.text = parsed ∧
      ¬('@' ∈ parsed.text.toList ∧ '%' ∈ parsed.text.toList) := by
  cases parsed with
  | type t =>
    obtain ⟨_, noAt, noPercent, _⟩ := regular
    refine ⟨?_, fun both => noAt both.1⟩
    exact (if_neg noAt).trans (if_neg noPercent)
  | parameter t name =>
    obtain ⟨_, noAt, noPercent, noAt'⟩ := regular
    have written : (text (parameter t name)).toList = t.toList ++ '%' :: name.toList := by
      simp [text]
    have absent : '@' ∉ t.toList ++ '%' :: name.toList := by
      simp only [List.mem_append, List.mem_cons, not_or]
      exact ⟨noAt, by decide, noAt'⟩
    refine ⟨?_, fun both => absent (written ▸ both.1)⟩
    have divides : split '%' (t.toList ++ '%' :: name.toList) = (t, name) :=
      split_append noPercent name
    rw [divided, written, if_neg absent, if_pos (by simp), divides]
  | field t name =>
    obtain ⟨_, noAt, noPercent, noPercent'⟩ := regular
    have written : (text (field t name)).toList = t.toList ++ '@' :: name.toList := by
      simp [text]
    have absent : '%' ∉ t.toList ++ '@' :: name.toList := by
      simp only [List.mem_append, List.mem_cons, not_or]
      exact ⟨noPercent, by decide, noPercent'⟩
    refine ⟨?_, fun both => absent (written ▸ both.2)⟩
    have divides : split '@' (t.toList ++ '@' :: name.toList) = (t, name) :=
      split_append noAt name
    rw [divided, written, if_pos (by simp), divides]

/-- A key is read as what it is the text of. -/
theorem parse_eq_ok_iff_text {parsed : ResourceKey} :
    parse key = .ok parsed ↔ parsed.Regular ∧ parsed.text = key := by
  rw [parse_eq_ok_iff]
  constructor
  · rintro ⟨single, named, rfl⟩
    exact ⟨regular_divided single named, text_divided key⟩
  · rintro ⟨regular, rfl⟩
    obtain ⟨same, single⟩ := regular.divided_text
    rw [same]
    exact ⟨single, regular.1, rfl⟩

theorem typeText_eq_empty_iff :
    typeText key = "" ↔
      key = "" ∨ key.toList.head? = some '@' ∨ key.toList.head? = some '%' := by
  rw [typeText, String.ofList_eq_empty_iff, ← String.toList_eq_nil_iff]
  cases key.toList with
  | nil => simp
  | cons c rest =>
    by_cases separator : isSeparator c = true
    · simp [separator, isSeparator_iff.mp separator]
    · simp [separator, isSeparator_iff.not.mp separator]

/-- A key is refused if it holds both separators, or if nothing stands before its first one. -/
theorem exists_fault_iff :
    (∃ fault, parse key = .error fault) ↔
      '@' ∈ key.toList ∧ '%' ∈ key.toList ∨ key = "" ∨
        key.toList.head? = some '@' ∨ key.toList.head? = some '%' := by
  have malformed : ¬WellFormed key ↔
      '@' ∈ key.toList ∧ '%' ∈ key.toList ∨ typeText key = "" := by
    rw [WellFormed, not_and_or, not_not, not_not, or_comm]
  rw [← typeText_eq_empty_iff, ← malformed]
  constructor
  · rintro ⟨fault, refused⟩ wellFormed
    obtain ⟨parsed, read⟩ := wellFormed.exists_parse
    cases read.symm.trans refused
  · exact fun malformed => ⟨reason key, parse_eq_error malformed⟩

theorem condition_eq_error_iff {value : Option String} {comparison : Comparison}
    {refusal : QueryError} :
    Builder.condition .resource key value comparison = .error refusal ↔
      ∃ fault, parse key = .error fault ∧ refusal = .badResourceKey key fault := by
  rw [Builder.condition]
  cases parse key <;> simp [eq_comm]

end Keys

/-- A key is refused, under its own name, exactly if it holds both separators or nothing stands
before its first one. Every other key is read as the one regular key that it is the text of, so the
text of a regular key is read as this key, and two keys are read as one only if they are equal. -/
theorem parse_divides :
    (∀ key, (∃ fault, parse key = .error fault) ↔
      '@' ∈ key.toList ∧ '%' ∈ key.toList ∨ key = "" ∨
        key.toList.head? = some '@' ∨ key.toList.head? = some '%') ∧
    (∀ key value comparison refusal,
      Builder.condition .resource key value comparison = .error refusal ↔
        ∃ fault, parse key = .error fault ∧ refusal = .badResourceKey key fault) ∧
    (∀ key parsed, parse key = .ok parsed ↔ parsed.Regular ∧ parsed.text = key) ∧
    ∀ key other, (∃ parsed, parse key = .ok parsed ∧ parse other = .ok parsed) ↔
      key = other ∧ ∃ parsed, parse key = .ok parsed := by
  refine ⟨fun _ => exists_fault_iff, fun _ _ _ _ => condition_eq_error_iff,
    fun _ _ => parse_eq_ok_iff_text, fun key other => ⟨?_, ?_⟩⟩
  · rintro ⟨parsed, read, read'⟩
    have same : key = other := by
      rw [← (parse_eq_ok_iff_text.mp read).2, (parse_eq_ok_iff_text.mp read').2]
    exact ⟨same, parsed, read⟩
  · rintro ⟨rfl, parsed, read⟩
    exact ⟨parsed, read, read⟩

/-- The separator may stand again in the selector. -/
example : parse "a%b%c" = .ok (.parameter "a" "b%c") := by decide

end InventoryQuery.ResourceKey
