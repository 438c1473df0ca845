import InventoryQuery.Proofs.Json.Shape
import InventoryQuery.Proofs.Json.Tokens
/-! # Arrays of objects in any layout

Objects that hold texts are written as tokens: brackets, commas, colons and string literals. They
are read out of every text that consists of these tokens, whatever spacing stands between them. Each
reader takes its tokens from the front and leaves a text that consists of the others.
-/

namespace InventoryQuery.Json

open Text (isSpacing skipSpacing)

/-- The tokens of a member that holds a text. -/
def memberTokens (member : String × String) : List (List Char) :=
  [(quote member.1).toList, [':'], (quote member.2).toList]

/-- The tokens of an object whose members hold texts. -/
def rowTokens (row : List (String × String)) : List (List Char) :=
  enclosed '\x7b' '\x7d' (row.map memberTokens)

/-- The tokens of an array of such objects. -/
def rowsTokens (rows : List (List (String × String))) : List (List Char) :=
  enclosed '[' ']' (rows.map rowTokens)

/-- The members of an object that holds texts. -/
def ofRow (row : List (String × String)) : List (String × Json) :=
  row.map fun (name, text) => (name, .string text)

@[simp] theorem ofRow_cons (member : String × String) (row : List (String × String)) :
    ofRow (member :: row) = (member.1, .string member.2) :: ofRow row :=
  rfl

section Members

variable {name value : String} {text : List Char} {tokens : List (List Char)} {allowed : Nat}

theorem nextMember_close (spaced : Spaced (['\x7d'] :: tokens) text) (first : Bool) :
    ∃ after, nextMember first text = .ok (false, '\x7d' :: after) ∧ Spaced tokens after := by
  obtain ⟨after, skipped, more⟩ := spaced.exists_skipSpacing rfl
  refine ⟨after, ?_, more⟩
  rw [nextMember, skipped]
  rfl

theorem Spaced.exists_quote (spaced : Spaced ((quote value).toList :: tokens) text) :
    ∃ inner after, skipSpacing text = '\x22' :: inner ∧ readString inner = .ok (value, after) ∧
      Spaced tokens after := by
  rw [quote, String.toList_ofList, List.cons_append] at spaced
  obtain ⟨after, skipped, more⟩ := spaced.exists_skipSpacing rfl
  rw [List.append_assoc] at skipped
  exact ⟨_, after, skipped, readString_quoted value after, more⟩

theorem nextMember_name (spaced : Spaced ((quote name).toList :: tokens) text) :
    ∃ inner after, nextMember true text = .ok (true, inner) ∧
      readString inner = .ok (name, after) ∧ Spaced tokens after := by
  obtain ⟨inner, after, skipped, read, more⟩ := spaced.exists_quote
  refine ⟨inner, after, ?_, read, more⟩
  rw [nextMember, skipped]
  rfl

theorem nextMember_comma (spaced : Spaced ([','] :: (quote name).toList :: tokens) text) :
    ∃ inner after, nextMember false text = .ok (true, inner) ∧
      readString inner = .ok (name, after) ∧ Spaced tokens after := by
  obtain ⟨behind, skipped, spaced'⟩ := spaced.exists_skipSpacing rfl
  obtain ⟨inner, after, skipped', read, more⟩ := spaced'.exists_quote
  refine ⟨inner, after, ?_, read, more⟩
  rw [nextMember, skipped]
  simp only [List.nil_append, skipped']
  rfl

theorem readColon_spaced (spaced : Spaced ([':'] :: tokens) text) :
    ∃ after, readColon text = .ok after ∧ Spaced tokens after := by
  obtain ⟨after, skipped, more⟩ := spaced.exists_skipSpacing rfl
  refine ⟨after, ?_, more⟩
  rw [readColon, skipped]
  rfl

theorem readValue_spaced (allowed : Nat)
    (spaced : Spaced ((quote value).toList :: tokens) text) :
    ∃ after, readValue allowed text = .ok (.string value, after) ∧ Spaced tokens after := by
  obtain ⟨inner, after, skipped, read, more⟩ := spaced.exists_quote
  refine ⟨after, ?_, more⟩
  rw [readValue_scalar (by simp [skipped]) (by simp [skipped]), skipped]
  exact congrArg (Except.map _) read

/-- One member is read, and then the others. -/
theorem readMembers_member {first : Bool} {inner behind : List Char}
    (next : nextMember first text = .ok (true, inner))
    (named : readString inner = .ok (name, behind))
    (spaced : Spaced ([':'] :: (quote value).toList :: tokens) behind) (fuel : Nat) :
    ∃ after, Spaced tokens after ∧ readMembers (readValue allowed) (fuel + 1) first text =
      (readMembers (readValue allowed) fuel false after).map
        fun (members, rest) => ((name, .string value) :: members, rest) := by
  obtain ⟨start, colon, spaced'⟩ := readColon_spaced spaced
  obtain ⟨after, read, more⟩ := readValue_spaced allowed spaced'
  refine ⟨after, more, ?_⟩
  rw [readMembers]
  simp only [next, named, colon, read, bind, Except.bind, if_true]
  cases readMembers (readValue allowed) fuel false after <;> rfl

theorem readMembers_others {row : List (String × String)} {fuel : Nat}
    (enough : row.length < fuel)
    (spaced : Spaced ((row.map memberTokens).flatMap ([','] :: ·) ++ ['\x7d'] :: tokens) text) :
    ∃ after, readMembers (readValue allowed) fuel false text = .ok (ofRow row, after) ∧
      Spaced tokens after := by
  induction row generalizing fuel text with
  | nil =>
    obtain ⟨fuel, rfl⟩ := Nat.exists_eq_add_one.mpr (Nat.zero_lt_of_lt enough)
    obtain ⟨after, next, more⟩ := nextMember_close spaced false
    refine ⟨after, ?_, more⟩
    rw [readMembers, next]
    rfl
  | cons member row ih =>
    obtain ⟨fuel, rfl⟩ := Nat.exists_eq_add_one.mpr (Nat.zero_lt_of_lt enough)
    obtain ⟨inner, behind, next, named, spaced'⟩ := nextMember_comma spaced
    obtain ⟨start, spaced', read⟩ := readMembers_member next named spaced' fuel
    obtain ⟨after, read', more⟩ := ih (Nat.lt_of_succ_lt_succ enough) spaced'
    refine ⟨after, ?_, more⟩
    rw [read, read']
    rfl

/-- The members of an object that holds texts are read in order. -/
theorem readValue_row {row : List (String × String)}
    (spaced : Spaced (rowTokens row ++ tokens) text) :
    ∃ after, readValue (allowed + 1) text = .ok (.object (ofRow row), after) ∧
      Spaced tokens after := by
  cases row with
  | nil =>
    obtain ⟨inner, opens, spaced'⟩ := spaced.exists_skipSpacing rfl
    obtain ⟨after, next, more⟩ := nextMember_close spaced' true
    refine ⟨after, readValue_eq_object_iff.mpr ⟨inner, opens, ?_⟩, more⟩
    cases inner with
    | nil => cases next
    | cons c inner =>
      rw [List.length_cons, readMembers, next]
      rfl
  | cons member row =>
    rw [rowTokens, List.map_cons, enclosed_cons_append] at spaced
    obtain ⟨inner, opens, spaced'⟩ := spaced.exists_skipSpacing rfl
    -- the loop may take as many steps as the text is long: one for each member and one for the end
    have long := spaced'.length_lt (by simp [memberTokens, quote])
    obtain ⟨fuel, enough⟩ := Nat.exists_eq_add_one.mpr (Nat.zero_lt_of_lt long)
    rw [List.length_map, enough] at long
    obtain ⟨start, behind, next, named, spaced'⟩ := nextMember_name spaced'
    obtain ⟨behind, spaced', read⟩ := readMembers_member next named spaced' fuel
    obtain ⟨after, read', more⟩ := readMembers_others (Nat.lt_of_succ_lt_succ long) spaced'
    refine ⟨after, readValue_eq_object_iff.mpr ⟨inner, opens, ?_⟩, more⟩
    rw [enough, read, read']
    rfl

end Members

section Rows

variable {row : List (String × String)} {rows : List (List (String × String))} {text : List Char}
  {tokens : List (List Char)} {allowed : Nat}

theorem exists_rowTokens (row : List (String × String)) :
    ∃ more, rowTokens row = ['\x7b'] :: more := by
  cases row with
  | nil => exact ⟨_, rfl⟩
  | cons member row => exact ⟨_, rfl⟩

theorem nextElement_close (spaced : Spaced ([']'] :: tokens) text) (first : Bool) :
    ∃ after, nextElement first text = .ok (false, ']' :: after) ∧ Spaced tokens after := by
  obtain ⟨after, skipped, more⟩ := spaced.exists_skipSpacing rfl
  refine ⟨after, ?_, more⟩
  rw [nextElement, skipped]
  rfl

theorem nextElement_row (spaced : Spaced (rowTokens row ++ tokens) text) :
    ∃ start, nextElement true text = .ok (true, start) ∧
      Spaced (rowTokens row ++ tokens) start := by
  obtain ⟨members, begins⟩ := exists_rowTokens row
  rw [begins] at spaced ⊢
  obtain ⟨after, skipped, more⟩ := spaced.exists_skipSpacing rfl
  refine ⟨_, ?_, more.front⟩
  rw [nextElement, skipped]
  rfl

theorem nextElement_comma (spaced : Spaced ([','] :: (rowTokens row ++ tokens)) text) :
    ∃ start, nextElement false text = .ok (true, start) ∧
      Spaced (rowTokens row ++ tokens) start := by
  obtain ⟨members, begins⟩ := exists_rowTokens row
  rw [begins] at spaced ⊢
  obtain ⟨behind, skipped, spaced'⟩ := spaced.exists_skipSpacing rfl
  obtain ⟨after, skipped', more⟩ := spaced'.exists_skipSpacing rfl
  refine ⟨_, ?_, more.front⟩
  rw [nextElement, skipped]
  simp only [List.nil_append, skipped']
  rfl

theorem readElements_others {fuel : Nat} (enough : rows.length < fuel)
    (spaced : Spaced ((rows.map rowTokens).flatMap ([','] :: ·) ++ [']'] :: tokens) text) :
    ∃ after, readElements (readValue (allowed + 1)) fuel false text =
        .ok (rows.map fun row => .object (ofRow row), after) ∧
      Spaced tokens after := by
  induction rows generalizing fuel text with
  | nil =>
    obtain ⟨fuel, rfl⟩ := Nat.exists_eq_add_one.mpr (Nat.zero_lt_of_lt enough)
    obtain ⟨after, next, more⟩ := nextElement_close spaced false
    exact ⟨after, readElements_succ_eq_ok_iff.mpr (.inl ⟨_, next, rfl, rfl⟩), more⟩
  | cons row rows ih =>
    obtain ⟨fuel, rfl⟩ := Nat.exists_eq_add_one.mpr (Nat.zero_lt_of_lt enough)
    rw [List.map_cons, List.flatMap_cons, List.append_assoc] at spaced
    obtain ⟨start, next, spaced'⟩ := nextElement_comma spaced
    obtain ⟨behind, read, spaced'⟩ := readValue_row spaced'
    obtain ⟨after, read', more⟩ := ih (Nat.lt_of_succ_lt_succ enough) spaced'
    exact ⟨after, readElements_succ_eq_ok_iff.mpr
      (.inr ⟨start, _, _, behind, next, read, read', rfl⟩), more⟩

/-- The objects of an array are read in order. -/
theorem readValue_rows (allowed : Nat) (spaced : Spaced (rowsTokens rows ++ tokens) text) :
    ∃ after, readValue (allowed + 2) text =
        .ok (.array (rows.map fun row => .object (ofRow row)), after) ∧
      Spaced tokens after := by
  cases rows with
  | nil =>
    obtain ⟨inner, opens, spaced'⟩ := spaced.exists_skipSpacing rfl
    obtain ⟨after, next, more⟩ := nextElement_close spaced' true
    refine ⟨after, readValue_eq_array_iff.mpr ⟨inner, opens, ?_⟩, more⟩
    cases inner with
    | nil => cases next
    | cons c inner => exact readElements_succ_eq_ok_iff.mpr (.inl ⟨_, next, rfl, rfl⟩)
  | cons row rows =>
    rw [rowsTokens, List.map_cons, enclosed_cons_append] at spaced
    obtain ⟨inner, opens, spaced'⟩ := spaced.exists_skipSpacing rfl
    obtain ⟨members, begins⟩ := exists_rowTokens row
    have long := spaced'.length_lt (by simp [begins])
    obtain ⟨fuel, enough⟩ := Nat.exists_eq_add_one.mpr (Nat.zero_lt_of_lt long)
    rw [List.length_map, enough] at long
    obtain ⟨start, next, spaced'⟩ := nextElement_row spaced'
    obtain ⟨behind, read, spaced'⟩ := readValue_row spaced'
    obtain ⟨after, read', more⟩ := readElements_others (Nat.lt_of_succ_lt_succ long) spaced'
    refine ⟨after, readValue_eq_array_iff.mpr ⟨inner, opens, ?_⟩, more⟩
    rw [enough]
    exact readElements_succ_eq_ok_iff.mpr
      (.inr ⟨start, _, _, behind, next, read, read', rfl⟩)

/-- Objects that hold texts are read out of every layout of them, and nothing else is. -/
theorem parse_rows {text : String} (spaced : Spaced (rowsTokens rows) text.toList) :
    parse text = .ok (.array (rows.map fun row => .object (ofRow row))) := by
  rw [← List.append_nil (rowsTokens rows)] at spaced
  obtain ⟨after, read, ended⟩ := readValue_rows (nestingLimit - 2) spaced
  exact readWhole_eq_ok_iff.mpr ⟨after, read, ended.skipSpacing_nil⟩

end Rows

section Compact

theorem tokens_row (row : List (String × String)) :
    (object (ofRow row)).tokens = rowTokens row := by
  rw [tokens, memberParts_eq, ofRow, List.map_map]
  rfl

theorem tokens_rows (rows : List (List (String × String))) :
    (array (rows.map fun row => .object (ofRow row))).tokens = rowsTokens rows := by
  have each : tokens ∘ (fun row => .object (ofRow row)) = rowTokens := funext tokens_row
  rw [tokens, elementParts_eq, List.map_map, each, rowsTokens]

/-- The compact text of objects that hold texts is one of their layouts. -/
theorem spaced_write (rows : List (List (String × String))) :
    Spaced (rowsTokens rows) (write (.array (rows.map fun row => .object (ofRow row)))).toList :=
  tokens_rows rows ▸ spaced_tokens _

end Compact

end InventoryQuery.Json
