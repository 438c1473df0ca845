import InventoryQuery.Proofs.Expression.Readiness
/-! # The places of syntax errors

A text with nothing to read at all is refused as blank. Any other text is refused at a part that
ends it, so the place of a syntax error is a place of the text, and what the error shows stands
there.
-/

namespace InventoryQuery

namespace Grammar

/-- A part that ends a text divides the text at the place where the part begins. -/
theorem exists_split_of_suffix {text : String} {unread : List Char}
    (inText : unread <:+ text.toList) :
    ∃ front back : String, text = front ++ back ∧ back.toList = unread ∧
      Text.offset text.toList unread = front.utf8ByteSize := by
  obtain ⟨front, same⟩ := inText
  refine ⟨String.ofList front, String.ofList unread, ?_, String.toList_ofList, ?_⟩
  · rw [← String.ofList_append, same, String.ofList_toList]
  · rw [← same, Text.offset_append, Text.utf8ByteSize_ofList]

end Grammar

open Grammar

/-- No text is refused with the message of a reading that would need more of it. The messages about
places end with the quote behind what they show, and no other one begins like them. -/
theorem QueryError.message_ne_incomplete {refusal : QueryError}
    (ofParse : refusal.OfText ∨ refusal.OfContent) (position : Nat) :
    refusal.message ≠ "parse error at position " ++ toString position ++ ": incomplete query" := by
  intro same
  have first : refusal.message.toList.head? = some 'p' := by
    rw [same, String.toList_append, String.toList_append]
    rfl
  have last : refusal.message.toList.getLast? = some 'y' := by
    rw [same, String.toList_append, List.getLast?_append]
    rfl
  rcases ofParse with ofText | ofContent
  · cases ofText with
    | blank => cases first
    | syntaxError position' excerpt =>
      change ("parse error at position " ++ _ ++ _ ++ _ ++ "'" : String).toList.getLast? = _ at last
      rw [String.toList_append, List.getLast?_append] at last
      cases last
  · cases ofContent with
    | categoryConflict current requested =>
      change ("mixed " ++ _ ++ _ ++ _ ++ _ : String).toList.head? = _ at first
      simp only [String.toList_append] at first
      cases first
    | badResourceKey key reason =>
      change ("invalid resource key '" ++ _ ++ _ ++ _ : String).toList.head? = _ at first
      simp only [String.toList_append] at first
      cases first
    | connectiveConflict declared requested =>
      change ("invalid query: got unexpected '" ++ _ ++ _ ++ _ ++ _ : String).toList.head? = _
        at first
      simp only [String.toList_append] at first
      cases first

/-- The refusals of the syntax are those of the reader. -/
theorem parse_eq_error_iff_of_ofText {text : String} {refusal : QueryError}
    (ofText : refusal.OfText) :
    Query.parse text = .error refusal ↔ Expression.parse text = .error refusal := by
  cases read : Expression.parse text with
  | error cause =>
    rw [Query.parse, read]
    exact ⟨fun same => congrArg _ (Except.error.inj same), fun same =>
      congrArg _ (Except.error.inj same)⟩
  | ok expression =>
    constructor
    · intro refused
      rw [Query.parse, read] at refused
      exact absurd ofText
        (replay_empty_refusal (expression.query_eq_replay.symm.trans refused)).not_ofText
    · intro absent
      cases absent

/-- A text is refused as empty exactly if all of it is blank. Every other syntax error names a place
of the text, counted in bytes and between two characters, and shows the first characters that stand
there, at most 20; it never asks for more of the text. -/
theorem syntax_errors_point_into_text (text : String) :
    (Query.parse text = .error .blank ↔ ∀ c ∈ text.toList, Text.isBlank c = true) ∧
      (∀ position excerpt, Query.parse text = .error (.syntaxError position excerpt) →
        position ≤ text.utf8ByteSize ∧ (String.Pos.Raw.mk position).IsValid text ∧
          ∃ front back : String, text = front ++ back ∧ front.utf8ByteSize = position ∧
            excerpt = String.ofList (back.toList.take 20) ∧
            (QueryError.syntaxError position excerpt).message =
              "parse error at position " ++ toString position ++ ": unexpected input at: '" ++
                excerpt ++ "'") ∧
      ∀ refusal, Query.parse text = .error refusal → ∀ position : Nat,
        refusal.message ≠
          "parse error at position " ++ toString position ++ ": incomplete query" := by
  refine ⟨?_, fun position excerpt refused => ?_, fun refusal refused =>
    refusal.message_ne_incomplete (refusal_of_parse refused)⟩
  · rw [parse_eq_error_iff_of_ofText .blank]
    constructor
    · intro refused
      rcases parse_error_cases refused with ⟨blank, _⟩ | ⟨_, unread, _, other⟩
      · exact blank
      · cases other
    · intro blank
      rw [Expression.parse]
      exact if_pos (List.all_eq_true.mpr blank)
  · rw [parse_eq_error_iff_of_ofText (.syntaxError position excerpt)] at refused
    rcases parse_error_cases refused with ⟨_, other⟩ | ⟨_, unread, inText, same⟩
    · cases other
    · cases same
      obtain ⟨front, back, rfl, rfl, place⟩ := exists_split_of_suffix inText
      have valid : (String.Pos.Raw.mk front.utf8ByteSize).IsValid (front ++ back) :=
        String.Pos.Raw.isValid_rawEndPos.append_right back
      rw [place]
      exact ⟨valid.le_utf8ByteSize, valid, front, back, rfl, rfl, rfl, rfl⟩

/-- The place is behind a letter of two bytes and a blank. -/
example : Query.parse "é (" = .error (.syntaxError 3 "(") := by rfl

end InventoryQuery
