import InventoryQuery.Proofs.Expression.Composition
/-! # Misplaced input

An accepted text is read in front of other input as it is read alone, as long as no quote is left
open in it. So input that cannot continue it is refused where it begins: another text without a
connective, or a parenthesis that closes nothing. A parenthesis that is not closed is refused where
it stands.
-/

namespace InventoryQuery

namespace Grammar

open Expression
open Text (isBlank isSpacing skipSpacing)

section Behind

variable {text rest : List Char} {item : Item}

/-- No item begins with a connective that spacing follows. -/
theorem Derives.no_connective (derived : Derives KeyChar (.item item) text rest)
    (follows : Follows rest) (connective : Connective) :
    (keyword? connective.text text).bind spacing? = none := by
  obtain ⟨letter, letters, spelling, notN, notOpen⟩ : ∃ letter letters,
      connective.text.toList = letter :: letters ∧ letter ≠ 'n' ∧ '('.toLower ≠ letter := by
    cases connective <;> exact ⟨_, _, rfl, by decide, by decide⟩
  cases derived with
  | atom plain => exact plain.no_keyword follows (by cases connective <;> decide)
  | @negated word _ _ _ _ spelled spacing apart plain =>
    obtain ⟨c, tail, rfl, _⟩ := spelled.head (by decide) (by decide)
    have first : c.toLower = 'n' := (List.cons.inj spelled).1
    rw [List.cons_append, keyword?_cons_of_ne spelling (by rw [first]; exact notN.symm),
      Option.bind_none]
  | group spacing head tail spacing' =>
    rw [keyword?_cons_of_ne spelling notOpen, Option.bind_none]

/-- An expression stops in front of an item that no connective joins to it. -/
theorem Derives.stops {gap : List Char} (derived : Derives KeyChar (.item item) text rest)
    (follows : Follows rest) (spacing : Spacing gap) (apart : gap ≠ []) : Stops (gap ++ text) := by
  have skipped : skipSpacing (gap ++ text) = text := by
    rw [spacing.skipSpacing_append, derived.unspaced.skipSpacing_eq]
  refine ⟨⟨?_, ?_⟩, connective?_eq_none ?_ ?_⟩
  · obtain ⟨c, gap, rfl⟩ := List.exists_cons_of_ne_nil apart
    rintro d first
    cases first
    exact .inl spacing.isSpacing_head
  · rw [skipped]
    obtain ⟨c, tail, rfl, rfl | letter⟩ := derived.head
    · rfl
    · exact letter.comparison?_eq_none tail
  · rw [skipped]
    exact derived.no_connective follows .and
  · rw [skipped]
    exact derived.no_connective follows .or

/-- An expression stops in front of spacing and another text. -/
theorem Accepts.stops_behind {text : String} {expression : Expression} {gap : List Char}
    (accepted : Accepts KeyChar text expression) (spacing : Spacing gap) (apart : gap ≠ []) :
    skipSpacing text.toList ≠ [] ∧
      (∀ gap', Spacing gap' → Stops (gap' ++ (gap ++ text.toList))) ∧
      skipSpacing (gap ++ text.toList) = skipSpacing text.toList := by
  obtain ⟨lead, start, middle, gap'', same, leading, head, more, spacing''⟩ := accepted
  have skipped : skipSpacing text.toList = start := by
    rw [same, leading.skipSpacing_append, head.unspaced.skipSpacing_eq]
  refine ⟨?_, fun gap' spacing' => ?_, spacing.skipSpacing_append _⟩
  · obtain ⟨c, tail, begins, _⟩ := head.head
    rw [skipped, begins]
    exact List.cons_ne_nil c tail
  · have all : Spacing (gap' ++ (gap ++ lead)) := by
      intro c present
      rcases List.mem_append.mp present with inside | present
      · exact spacing' c inside
      · exact (List.mem_append.mp present).elim (spacing c) (leading c)
    have stops := head.stops (more.follows spacing''.ends.follows) all (by simp [apart])
    rw [same]
    simpa using stops

end Behind

section Open

variable {text rest : List Char} {expression : Expression}

theorem readCondition_open (text : List Char) :
    readCondition ('(' :: text) = .error (.mismatch ('(' :: text)) := by
  rw [readCondition, keyword?_cons_of_ne rfl (by decide)]
  rfl

/-- A parenthesis behind which the whole text is read is no group. -/
theorem readItem_open {inner : Reader Expression}
    (found : inner (skipSpacing text) = .ok (expression, rest)) (ending : skipSpacing rest = []) :
    readItem inner ('(' :: text) = .error (.mismatch ('(' :: text)) := by
  simp only [readItem, found, ending]
  exact readCondition_open text

/-- A text behind a parenthesis is refused at the parenthesis. -/
theorem Accepts.parse_open {whole text : String} {gap : List Char}
    (accepted : Accepts KeyChar text expression) (spacing : Spacing gap)
    (split : whole.toList = gap ++ '(' :: text.toList) :
    Expression.parse whole = .error (syntaxError whole.toList ('(' :: text.toList)) := by
  obtain ⟨gap', start, middle, gap'', same, spacing', head, more, spacing''⟩ := accepted
  have reads : Reads start gap'' expression := ⟨middle, head, more⟩
  have skipped : skipSpacing text.toList = start := by
    rw [same, spacing'.skipSpacing_append, reads.unspaced.skipSpacing_eq]
  -- the parenthesis pays for the level that the text is read on
  have enough : start.count '(' ≤ text.toList.count '(' :=
    (same ▸ List.suffix_append gap' start).sublist.count_le '('
  have found := reads.readWithin_eq spacing''.ends.stops enough
  rw [← skipped] at found
  have failed : Expression.read ('(' :: text.toList) =
      .error (.mismatch ('(' :: text.toList)) := by
    rw [Expression.read, List.count_cons_self, readWithin,
      readItem_open found spacing''.skipSpacing_eq_nil]
    rfl
  have visible : whole.toList.all isBlank = false :=
    List.all_eq_false.mpr ⟨'(', by simp [split], by decide⟩
  have opening : skipSpacing whole.toList = '(' :: text.toList := by
    rw [split, spacing.skipSpacing_append]
    rfl
  rw [Expression.parse, visible, opening, failed]
  rfl

end Open

end Grammar

open Grammar
open Expression (syntaxError)
open Text (isSpacing skipSpacing)

/-- Where the syntax error of a text stands that is divided there. -/
theorem syntaxError_split {whole : String} {front : String} {back : List Char}
    (split : whole.toList = front.toList ++ back) :
    ∃ excerpt, syntaxError whole.toList back = .syntaxError front.utf8ByteSize excerpt := by
  rw [syntaxError, split, Text.offset_append, Text.byteLength_toList]
  exact ⟨_, rfl⟩

namespace Reading

variable {reading : Reading}

/-- In front of more input that stops it, a text is read as it is read alone, and what is left is
refused. -/
theorem parse_more (unquoted : reading.query.Unquoted) {whole : String} {more : List Char}
    (split : whole.toList = reading.text.toList ++ more)
    (stops : ∀ gap, Spacing gap → Stops (gap ++ more)) (visible : skipSpacing more ≠ []) :
    Query.parse whole = .error (syntaxError whole.toList (skipSpacing more)) := by
  obtain ⟨gap, start, middle, gap', same, spacing, head, tail, spacing'⟩ := reading.accepted
  have admits := admits_of_unquoted unquoted more
  have reads : Reads (start ++ more) (gap' ++ more) reading.expression :=
    ⟨middle ++ more, head.extend fun call present => admits call (List.mem_append_left _ present),
      tail.extend fun call present => admits call (List.mem_append_right _ present)⟩
  have divided : whole.toList = gap ++ (start ++ more) := by
    rw [split, same, List.append_assoc]
  rw [Query.parse, reads.parse_eq (stops gap' spacing') spacing divided,
    spacing'.skipSpacing_append]
  cases left : skipSpacing more with
  | nil => exact absurd left visible
  | cons c unread => rfl

end Reading

/-- Where input behind an accepted text is refused that no quote of the text reaches, and input in
front of it that it does not close: another accepted text behind spacing, at its first word; a
closing parenthesis with anything behind it, where it stands; and an opening parenthesis in front of
the text, with or without spacing before it, where it stands. -/
theorem misplaced_input_is_located {text : String} {query : Query}
    (parsed : Query.parse text = .ok query) (unquoted : query.Unquoted) :
    (∀ (gap next : String) (other : Query), Spacing gap.toList → gap ≠ "" →
        Query.parse next = .ok other → ∃ excerpt,
          Query.parse (text ++ gap ++ next) = .error (.syntaxError
            (text ++ gap ++ String.ofList (next.toList.takeWhile isSpacing)).utf8ByteSize
            excerpt)) ∧
      (∀ rest : String, ∃ excerpt, Query.parse (text ++ ")" ++ rest) =
        .error (.syntaxError text.utf8ByteSize excerpt)) ∧
      ∀ gap : String, Spacing gap.toList → ∃ excerpt, Query.parse (gap ++ "(" ++ text) =
        .error (.syntaxError gap.utf8ByteSize excerpt) := by
  obtain ⟨expression, outline, accepted, builds, describes⟩ := exists_builds_of_parse parsed
  let reading : Reading := ⟨text, query, expression, outline, parsed, accepted, builds, describes⟩
  refine ⟨fun gap next other spacing apart parsed' => ?_, fun rest => ?_, fun gap spacing => ?_⟩
  · obtain ⟨expression', _, accepted', _, _⟩ := exists_builds_of_parse parsed'
    obtain ⟨filled, behind, skipped⟩ := accepted'.stops_behind spacing (by simpa using apart)
    have split : (text ++ gap ++ next).toList =
        text.toList ++ (gap.toList ++ next.toList) := by
      simp
    have divided : (text ++ gap ++ next).toList =
        (text ++ gap ++ String.ofList (next.toList.takeWhile isSpacing)).toList ++
          skipSpacing next.toList := by
      simp [skipSpacing]
    have refused := reading.parse_more unquoted split behind (by rw [skipped]; exact filled)
    obtain ⟨excerpt, located⟩ := syntaxError_split divided
    exact ⟨excerpt, (skipped ▸ refused).trans (congrArg _ located)⟩
  · have split : (text ++ ")" ++ rest).toList = text.toList ++ ')' :: rest.toList := by
      simp
    have refused := reading.parse_more unquoted split
      (fun gap spacing => (spacing.ends_close rest.toList).stops) (List.cons_ne_nil _ _)
    obtain ⟨excerpt, located⟩ := syntaxError_split split
    exact ⟨excerpt, refused.trans (congrArg _ located)⟩
  · have split : (gap ++ "(" ++ text).toList = gap.toList ++ '(' :: text.toList := by
      simp
    obtain ⟨excerpt, located⟩ := syntaxError_split split
    refine ⟨excerpt, ?_⟩
    rw [Query.parse, accepted.parse_open spacing split, located]
    rfl

/-- A negated host with a letter of two bytes, and another text that begins like a connective. -/
theorem misplaced_input_is_located_android :
    let text := "(R:Class and not é1)"
    let query : Query := ⟨#[⟨none, none, [.group 1]⟩, ⟨some 0, some .and,
      [.term (.combine .and [.compare .equal (.field "type") "Class"]),
        .term (.not (.combine .or [.compare .equal .hostKey "é1"]))]⟩], 0, some .resource⟩
    let other : Query :=
      ⟨#[⟨none, none, [.term (.combine .or [.compare .equal .hostKey "android"])]⟩], 0, none⟩
    Query.parse text = .ok query ∧ query.Unquoted ∧ Spacing "\t".toList ∧
      Query.parse " android" = .ok other ∧
      (∃ excerpt, Query.parse (text ++ "\t" ++ " android") = .error (.syntaxError 23 excerpt)) ∧
      (∃ excerpt, Query.parse (text ++ ")" ++ " or b") = .error (.syntaxError 21 excerpt)) ∧
      ∃ excerpt, Query.parse ("\t" ++ "(" ++ text) = .error (.syntaxError 1 excerpt) := by
  intro text query other
  have read : Expression.parse "(R:Class and not é1)" =
      .ok ⟨.group (.atom false (.condition .resource "Class" none))
        [(.and, .atom true (.hosts ["é1"]))], []⟩ := by rfl
  have readOther : Expression.parse " android" = .ok ⟨.atom false (.hosts ["android"]), []⟩ := by
    rfl
  have parsed : Query.parse text = .ok query := by
    rw [Query.parse, read]
    rfl
  have parsedOther : Query.parse " android" = .ok other := by
    rw [Query.parse, readOther]
    rfl
  have unquoted : query.Unquoted := by decide
  have spacing : Spacing "\t".toList := by simp [Spacing]
  obtain ⟨behind, closed, opened⟩ := misplaced_input_is_located parsed unquoted
  exact ⟨parsed, unquoted, spacing, parsedOther,
    behind "\t" " android" other spacing (by decide) parsedOther, closed " or b",
    opened "\t" spacing⟩

end InventoryQuery
