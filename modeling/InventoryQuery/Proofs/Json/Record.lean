import InventoryQuery.Json.Record
import InventoryQuery.Proofs.Json.Layout
import InventoryQuery.Proofs.Json.Numeral
/-! # Reading records member by member

A record is read out of an object that names some of its members, each once and in any order. What
is known of the readers of its fields (`Covers`) is carried from one member to all of them: the draft
holds the members that were read, whatever their order and layout (`readRecord_members`).
-/

namespace InventoryQuery.Json

open Text (isSpacing skipSpacing)

/-- A reader takes some tokens for a value, and no more, where a comma or a closing brace stands
behind them. -/
structure Takes {α : Type} (reader : Reader α) (tokens : List (List Char)) (value : α) :
    Prop where
  read : ∀ {closing : Char} {others : List (List Char)} {text : List Char},
    (closing = ',' ∨ closing = '\x7d') → Spaced (tokens ++ [closing] :: others) text →
    ∃ after, reader text = .ok (value, after) ∧ Spaced ([closing] :: others) after

section Values

variable {α β : Type} {reader : Reader α} {tokens others : List (List Char)} {value : α}
  {closing : Char} {text : List Char}

/-- Spacing, a comma or a brace does not go on with a number. -/
theorem Spaced.endsNumber (closes : closing = ',' ∨ closing = '\x7d')
    (spaced : Spaced ([closing] :: others) text) : EndsNumber text := by
  cases spaced with
  | @cons gap _ _ _ spacing more =>
    intro c first
    cases gap with
    | nil =>
      obtain rfl : closing = c := Option.some.inj first
      rcases closes with rfl | rfl <;> decide
    | cons space gap =>
      obtain rfl : space = c := Option.some.inj first
      have known := spacing space List.mem_cons_self
      simp only [isSpacing, Bool.or_eq_true, beq_iff_eq] at known
      rcases known with ((rfl | rfl) | rfl) | rfl <;> decide

theorem takes_readText (value : String) : Takes readText (Json.string value).tokens value := by
  refine ⟨fun _ spaced => ?_⟩
  obtain ⟨inner, after, skipped, read, more⟩ := Spaced.exists_quote spaced
  refine ⟨after, ?_, more⟩
  rw [readText, skipped]
  exact read

theorem tokens_natural (n : Nat) : (natural n).tokens = [Nat.toDigits 10 n] := by
  rw [natural, tokens, Number.text, Nat.toString_eq_ofList_toDigits, String.toList_ofList]

/-- Without the spacing in front of it, the text of a whole number begins with its digits. -/
theorem exists_digits {n : Nat} (spaced : Spaced ((natural n).tokens ++ others) text) :
    ∃ c rest after, skipSpacing text = c :: rest ∧ c.isDigit = true ∧
      c :: rest = Nat.toDigits 10 n ++ after ∧ Spaced others after := by
  obtain ⟨c, digits, same⟩ := List.exists_cons_of_ne_nil (Nat.toDigits_ne_nil (n := n) (b := 10))
  have digit : c.isDigit = true :=
    Nat.isDigit_of_mem_toDigits (by decide) (by decide) (same ▸ List.mem_cons_self)
  have visible : isSpacing c = false := by
    by_contra space
    simp only [isSpacing, Bool.not_eq_false, Bool.or_eq_true, beq_iff_eq] at space
    rcases space with ((rfl | rfl) | rfl) | rfl <;> exact absurd digit (by decide)
  rw [tokens_natural, same] at spaced
  obtain ⟨after, skipped, more⟩ := spaced.exists_skipSpacing visible
  exact ⟨c, digits ++ after, after, skipped, digit, by rw [same, List.cons_append], more⟩

theorem takes_readBelow {n bound : Nat} {name : String} (small : n < bound)
    (fits : n ≤ maxSignificand) : Takes (readBelow bound name) (natural n).tokens n := by
  refine ⟨fun closes spaced => ?_⟩
  obtain ⟨c, rest, after, skipped, digit, begins, more⟩ := exists_digits spaced
  have read := readNumber_toDigits fits (more.endsNumber closes)
  refine ⟨after, ?_, more⟩
  rw [← begins] at read
  simp only [readBelow, skipped, digit, or_true, if_true, read, bind, Except.bind, small]
  rfl

theorem Takes.readAs (takes : Takes reader tokens value) (convert : α → β) :
    Takes (readAs convert reader) tokens (convert value) := by
  refine ⟨fun closes spaced => ?_⟩
  obtain ⟨after, read, more⟩ := takes.read closes spaced
  refine ⟨after, ?_, more⟩
  rw [Json.readAs, read]
  rfl

/-- A number of a type with a bound is read back by the conversion that undoes its value. -/
theorem takes_bounded {bound : Nat} {name : String} {toNat : α → Nat} {ofNat : Nat → α}
    (back : ∀ value, ofNat (toNat value) = value) (small : ∀ value, toNat value < bound)
    (fits : bound ≤ maxSignificand + 1) (value : α) :
    Takes (Json.readAs ofNat (readBelow bound name)) (natural (toNat value)).tokens value := by
  have below : Takes (readBelow bound name) (natural (toNat value)).tokens (toNat value) :=
    takes_readBelow (small value) (Nat.le_of_lt_succ ((small value).trans_le fits))
  have takes := below.readAs ofNat
  rwa [back] at takes

theorem takes_readOptional_null : Takes (readOptional reader) Json.null.tokens none := by
  refine ⟨fun _ spaced => ?_⟩
  obtain ⟨after, skipped, more⟩ := Spaced.exists_skipSpacing (c := 'n') spaced rfl
  refine ⟨after, ?_, more⟩
  rw [readOptional, skipped]
  simp [readWord, Except.map]

theorem Takes.readOptional {n : Nat} (takes : Takes reader (natural n).tokens value) :
    Takes (readOptional reader) (natural n).tokens (some value) := by
  refine ⟨fun {closing others text} closes spaced => ?_⟩
  obtain ⟨c, rest, behind, skipped, digit, begins, more⟩ := exists_digits spaced
  have again : Spaced ((natural n).tokens ++ [closing] :: others) (c :: rest) := by
    rw [begins, tokens_natural]
    exact more.front
  obtain ⟨after, read, more⟩ := (takes.readAs some).read closes again
  refine ⟨after, ?_, more⟩
  rw [Json.readOptional, skipped]
  split
  · next same =>
    rw [(List.cons.inj same).1] at digit
    exact absurd digit (by decide)
  · exact read

end Values

section Members

variable {δ ρ μ : Type} {fields : List (Field δ)} {name : μ → String} {value : μ → Json}
  {draft : List μ → δ} {read members : List μ} {text : List Char} {tokens : List (List Char)}

/-- The fields of a record cover some members with values: the draft with some members that were
read lacks every other member, and reading that one yields the draft with it. -/
def Covers (fields : List (Field δ)) (name : μ → String) (value : μ → Json)
    (draft : List μ → δ) : Prop :=
  ∀ read member, member ∉ read →
    ∃ field, fields.find? (·.name = name member) = some field ∧ field.given (draft read) = false ∧
      Takes (field.read (draft read)) (value member).tokens (draft (read ++ [member]))

/-- The tokens of a member. -/
def partTokens (name : μ → String) (value : μ → Json) (member : μ) : List (List Char) :=
  (quote (name member)).toList :: [':'] :: (value member).tokens

/-- The object with some members. -/
def objectOf (name : μ → String) (value : μ → Json) (members : List μ) : Json :=
  .object (members.map fun member => (name member, value member))

theorem tokens_objectOf (members : List μ) :
    (objectOf name value members).tokens =
      enclosed '\x7b' '\x7d' (members.map (partTokens name value)) := by
  rw [objectOf, Json.tokens, memberParts_eq, List.map_map]
  rfl

/-- A comma or the closing brace stands behind a member. -/
theorem exists_closing (name : μ → String) (value : μ → Json) (members : List μ)
    (tokens : List (List Char)) :
    ∃ closing others, (closing = ',' ∨ closing = '\x7d') ∧
      (members.map (partTokens name value)).flatMap ([','] :: ·) ++ ['\x7d'] :: tokens =
        [closing] :: others := by
  cases members with
  | nil => exact ⟨'\x7d', tokens, .inr rfl, rfl⟩
  | cons member members => exact ⟨',', _, .inl rfl, rfl⟩

/-- One member is read into the draft, and then the others. -/
theorem Covers.readFields_member (covers : Covers fields name value draft) {member : μ}
    (unread : member ∉ read) {first : Bool} {inner behind : List Char}
    (next : nextMember first text = .ok (true, inner))
    (named : readString inner = .ok (name member, behind))
    (spaced : Spaced ([':'] :: ((value member).tokens ++
      ((members.map (partTokens name value)).flatMap ([','] :: ·) ++ ['\x7d'] :: tokens))) behind)
    (fuel : Nat) :
    ∃ after, Spaced ((members.map (partTokens name value)).flatMap ([','] :: ·) ++
        ['\x7d'] :: tokens) after ∧
      readFields fields (fuel + 1) first (draft read) text =
        readFields fields fuel false (draft (read ++ [member])) after := by
  obtain ⟨closing, others, closes, same⟩ := exists_closing name value members tokens
  obtain ⟨field, found, lacking, takes⟩ := covers read member unread
  obtain ⟨start, colon, spaced⟩ := readColon_spaced spaced
  rw [same] at spaced ⊢
  obtain ⟨after, taken, more⟩ := takes.read closes spaced
  refine ⟨after, more, ?_⟩
  rw [readFields]
  simp only [next, named, found, lacking, colon, taken, bind, Except.bind, if_true,
    Bool.false_eq_true, if_false]

/-- The members that are left are read in their order. -/
theorem Covers.readFields_others (covers : Covers fields name value draft)
    (once : (read ++ members).Nodup) {fuel : Nat} (enough : members.length < fuel)
    (spaced : Spaced ((members.map (partTokens name value)).flatMap ([','] :: ·) ++
      ['\x7d'] :: tokens) text) :
    ∃ after, readFields fields fuel false (draft read) text =
        .ok (draft (read ++ members), '\x7d' :: after) ∧ Spaced tokens after := by
  induction members generalizing read fuel text with
  | nil =>
    obtain ⟨fuel, rfl⟩ := Nat.exists_eq_add_one.mpr (Nat.zero_lt_of_lt enough)
    obtain ⟨after, next, more⟩ := nextMember_close spaced false
    refine ⟨after, ?_, more⟩
    rw [readFields, next, List.append_nil]
    rfl
  | cons member members ih =>
    obtain ⟨fuel, rfl⟩ := Nat.exists_eq_add_one.mpr (Nat.zero_lt_of_lt enough)
    have unread : member ∉ read := fun present =>
      (List.nodup_append.mp once).2.2 member present member List.mem_cons_self rfl
    rw [List.append_cons] at once ⊢
    simp only [List.map_cons, List.flatMap_cons, partTokens, List.cons_append,
      List.append_assoc] at spaced
    obtain ⟨inner, behind, next, named, spaced⟩ := nextMember_comma spaced
    obtain ⟨start, spaced, one⟩ := covers.readFields_member unread next named spaced fuel
    rw [one]
    exact ih once (Nat.lt_of_succ_lt_succ enough) spaced

/-- All members of an object are read behind its opening brace. -/
theorem Covers.readFields_object (covers : Covers fields name value draft) (once : members.Nodup)
    (spaced : Spaced ((objectOf name value members).tokens ++ tokens) text) :
    ∃ inner after, skipSpacing text = '\x7b' :: inner ∧
      readFields fields inner.length true (draft []) inner =
        .ok (draft members, '\x7d' :: after) ∧ Spaced tokens after := by
  rw [tokens_objectOf] at spaced
  cases members with
  | nil =>
    obtain ⟨inner, opens, spaced⟩ := spaced.exists_skipSpacing rfl
    obtain ⟨after, next, more⟩ := nextMember_close spaced true
    refine ⟨inner, after, opens, ?_, more⟩
    cases inner with
    | nil => cases next
    | cons c inner =>
      rw [List.length_cons, readFields, next]
      rfl
  | cons member members =>
    rw [List.map_cons, enclosed_cons_append] at spaced
    obtain ⟨inner, opens, spaced⟩ := spaced.exists_skipSpacing rfl
    -- the loop may take as many steps as the text is long: one for each member and one for the end
    have long := spaced.length_lt (by simp [partTokens, quote])
    obtain ⟨fuel, enough⟩ := Nat.exists_eq_add_one.mpr (Nat.zero_lt_of_lt long)
    rw [List.length_map, enough] at long
    simp only [partTokens, List.cons_append] at spaced
    obtain ⟨start, behind, next, named, spaced⟩ := nextMember_name spaced
    obtain ⟨start, spaced, one⟩ :=
      covers.readFields_member List.not_mem_nil next named spaced fuel
    have once : ([] ++ [member] ++ members).Nodup := once
    obtain ⟨after, read, more⟩ :=
      covers.readFields_others once (Nat.lt_of_succ_lt_succ long) spaced
    refine ⟨inner, after, opens, ?_, more⟩
    rw [enough, one, read]
    rfl

/-- A record is read out of an object with some of its members, in any order and layout. -/
theorem readRecord_members {shape : Shape δ ρ} {record : ρ}
    (covers : Covers shape.fields name value draft) (blank : shape.blank = draft [])
    (once : members.Nodup) (finished : shape.finish (draft members) = .ok record)
    (spaced : Spaced ((objectOf name value members).tokens ++ tokens) text) :
    ∃ after, readRecord shape text = .ok (record, after) ∧ Spaced tokens after := by
  obtain ⟨inner, after, opens, read, more⟩ := covers.readFields_object once spaced
  refine ⟨after, ?_, more⟩
  rw [readRecord, opens]
  simp only [blank, read, bind, Except.bind, afterObject, finished]
  rfl

/-- A record within a record is read with the same effect. -/
theorem takes_readRecord {shape : Shape δ ρ} {record : ρ}
    (covers : Covers shape.fields name value draft) (blank : shape.blank = draft [])
    (once : members.Nodup) (finished : shape.finish (draft members) = .ok record) :
    Takes (readRecord shape) (objectOf name value members).tokens record :=
  ⟨fun _ spaced => readRecord_members covers blank once finished spaced⟩

/-- A whole text of an object with some members is read as a record. -/
theorem readWhole_members {shape : Shape δ ρ} {record : ρ} {text : String}
    (covers : Covers shape.fields name value draft) (blank : shape.blank = draft [])
    (once : members.Nodup) (finished : shape.finish (draft members) = .ok record)
    (spaced : Spaced (objectOf name value members).tokens text.toList) :
    readWhole (readRecord shape) text = .ok record := by
  rw [← List.append_nil (objectOf name value members).tokens] at spaced
  obtain ⟨after, read, ended⟩ := readRecord_members covers blank once finished spaced
  exact readWhole_eq_ok_iff.mpr ⟨after, read, ended.skipSpacing_nil⟩

end Members

end InventoryQuery.Json
