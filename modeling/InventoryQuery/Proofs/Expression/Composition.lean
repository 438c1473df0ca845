import InventoryQuery.Proofs.Expression.Locality
/-! # Texts joined in parentheses

Accepted texts in parentheses with a connective between them make a text again. Each pair of
parentheses is read as its text is read alone (`Reading.derives_item`), and its calls do what they do
on a query of their own, so the query of the whole joins the texts of the parts. Only the categories
of the parts can conflict.
-/

namespace InventoryQuery

open Grammar
open Category (Compatible)

/-- Some texts, each in parentheses, with a connective between them. -/
def Connective.composed (connective : Connective) (texts : List String) : String :=
  (" " ++ connective.text ++ " ").intercalate (texts.map fun text => "(" ++ text ++ ")")

/-- The text of a group on the wire: that of its only member, or the array of several. -/
def Connective.joined (connective : Connective) : List String → String
  | [text] => text
  | texts => connective.arrayText texts

/-- A text that is read: its expression, and the outline of its query. -/
structure Reading where
  text : String
  query : Query
  expression : Expression
  outline : Outline
  parsed : Query.parse text = .ok query
  accepted : Accepts KeyChar text expression
  builds : expression.Builds outline
  describes : outline.Describes query

namespace Reading

variable {connective : Connective} {reading first : Reading} {readings others : List Reading}

/-- Texts that are all read have readings. -/
theorem exists_of_parse {parsed : List (String × Query)}
    (each : ∀ pair ∈ parsed, Query.parse pair.1 = .ok pair.2) :
    ∃ readings : List Reading, parsed = readings.map fun reading => (reading.text, reading.query) := by
  induction parsed with
  | nil => exact ⟨[], rfl⟩
  | cons pair parsed ih =>
    have read := each pair List.mem_cons_self
    obtain ⟨expression, outline, accepted, builds, describes⟩ := exists_builds_of_parse read
    obtain ⟨readings, rfl⟩ := ih fun pair' later => each pair' (List.mem_cons_of_mem _ later)
    exact ⟨⟨pair.1, pair.2, expression, outline, read, accepted, builds, describes⟩ :: readings,
      rfl⟩

/-- The text in parentheses stands for a group. -/
def item (reading : Reading) : Item :=
  .group reading.expression.first reading.expression.others

theorem calls_item (reading : Reading) :
    reading.item.calls = .openGroup :: (reading.expression.calls ++ [.closeGroup]) := by
  rw [item, Item.calls, Expression.calls, List.append_assoc]

/-- The expression of some texts in parentheses with a connective between them. -/
def composite (connective : Connective) (first : Reading) (others : List Reading) : Expression :=
  ⟨first.item, others.map fun reading => (connective, reading.item)⟩

section Text

/-- The text in parentheses behind a connective. -/
def behind (reading : Reading) (connective : Connective) : List Char :=
  ' ' :: (connective.text.toList ++ ' ' :: '(' :: (reading.text.toList ++ [')']))

theorem toList_composed (connective : Connective) (first : Reading) (others : List Reading) :
    (connective.composed ((first :: others).map text)).toList =
      '(' :: (first.text.toList ++ ')' :: others.flatMap (·.behind connective)) := by
  rw [Connective.composed, List.map_cons, List.map_cons, intercalate_cons]
  simp [behind, List.flatMap_map]

/-- No value but in the last query begins with a quote. -/
def Apart (readings : List Reading) : Prop :=
  ∀ reading ∈ readings.dropLast, reading.query.Unquoted

theorem Apart.tail (apart : Apart (first :: others)) : Apart others := by
  intro reading present
  apply apart
  cases others with
  | nil => cases present
  | cons second others => exact List.mem_cons_of_mem _ present

/-- Anything can follow a text without a value that begins with a quote. -/
theorem admits_of_unquoted (unquoted : reading.query.Unquoted) (more : List Char) :
    ∀ call ∈ reading.expression.calls, call.Admits more := by
  intro call present value given quote
  have held := reading.describes.mem_values_of_replay reading.builds.replayed
    ⟨call, present, given⟩
  exact absurd quote (unquoted value held)

/-- The other texts can follow the first one: it is the last, or its query is unquoted. -/
theorem Apart.admits (apart : Apart (first :: others)) (connective : Connective) :
    ∀ call ∈ first.expression.calls, call.Admits (others.flatMap (·.behind connective)) := by
  cases others with
  | nil => exact fun call _ => call.admits_of_not_mem List.not_mem_nil
  | cons second others => exact admits_of_unquoted (apart first List.mem_cons_self) _

/-- In parentheses a text is read as it is read alone. -/
theorem derives_item (reading : Reading) {more : List Char}
    (admits : ∀ call ∈ reading.expression.calls, call.Admits more) :
    Derives KeyChar (.item reading.item) ('(' :: (reading.text.toList ++ ')' :: more)) more := by
  obtain ⟨gap, start, middle, gap', same, spacing, head, tail, spacing'⟩ := reading.accepted
  -- the closing parenthesis is no quote
  have admits' : ∀ call ∈ reading.expression.calls, call.Admits (')' :: more) := by
    intro call present value given quote
    simpa using admits call present value given quote
  have head' := head.extend fun call present => admits' call (List.mem_append_left _ present)
  have tail' := tail.extend fun call present => admits' call (List.mem_append_right _ present)
  rw [same, List.append_assoc]
  exact .group spacing head' tail' spacing'

theorem derives_others (apart : Apart others) :
    Derives KeyChar (.others (others.map fun reading => (connective, reading.item)))
      (others.flatMap (·.behind connective)) [] := by
  induction others with
  | nil => exact .done
  | cons reading others ih =>
    have space : Spacing [' '] := by simp [Spacing]
    have spelled : Spells connective.text.toList connective.text := by cases connective <;> rfl
    have head := reading.derives_item (apart.admits connective)
    have composed := Derives.next space (by simp) spelled space (by simp) head (ih apart.tail)
    simpa [behind] using composed

theorem accepts_composite (connective : Connective) (apart : Apart (first :: others)) :
    Accepts KeyChar (connective.composed ((first :: others).map text))
      (composite connective first others) := by
  have nothing : Spacing [] := by simp [Spacing]
  exact ⟨[], _, _, [], toList_composed connective first others, nothing,
    first.derives_item (apart.admits connective), derives_others apart.tail, nothing⟩

end Text

section Calls

variable {outer next : Outline} {outcome : Except QueryError Outline}

/-- The categories of some queries, in order. -/
def categories (readings : List Reading) : List Category :=
  readings.filterMap (·.outline.category)

theorem head?_categories_cons (reading : Reading) (readings : List Reading) :
    (categories (reading :: readings)).head? =
      reading.outline.category.or (categories readings).head? := by
  rw [categories, List.filterMap_cons]
  cases reading.outline.category <;> rfl

/-- The outline with one more member, a reading in parentheses. -/
def addTo (reading : Reading) (outer : Outline) : Outline :=
  ⟨outer.category.or reading.outline.category,
    outer.current.add (reading.outline.tree.shift outer.tree.ids.length), outer.around⟩

/-- An outline has got some readings as members. Their categories are all the same and go with the
category that was fixed before. -/
structure Joins (connective : Connective) (readings : List Reading) (outer next : Outline) :
    Prop where
  around : next.around = outer.around
  category : next.category = outer.category.or (categories readings).head?
  agree : ∀ c ∈ categories readings, next.category = some c
  declared : 2 ≤ next.current.members.length → next.current.connective = some connective
  members : ∀ hostKey, next.current.members.map (Tree.render hostKey) =
    outer.current.members.map (Tree.render hostKey) ++
      readings.map (·.outline.tree.render hostKey)

/-- The category that is fixed first is refused for another one among those of some readings. -/
def Conflicts (readings : List Reading) (outer : Outline) (outcome : Except QueryError Outline) :
    Prop :=
  ∃ current requested, outer.category.or (categories readings).head? = some current ∧
    requested ∈ categories readings ∧ requested ≠ current ∧
      outcome = .error (.categoryConflict current requested)

theorem Joins.cons (compatible : Compatible outer.category reading.outline.category)
    (joins : Joins connective readings (reading.addTo outer) next) :
    Joins connective (reading :: readings) outer next where
  around := joins.around
  category := by
    rw [joins.category, head?_categories_cons, ← Option.or_assoc]
    rfl
  agree := by
    intro c present
    rw [categories, List.mem_filterMap] at present
    obtain ⟨reading', member, fixed⟩ := present
    rcases List.mem_cons.mp member with rfl | later
    · have gained : (reading'.addTo outer).category = some c := by
        rw [fixed] at compatible
        rw [addTo, fixed, compatible.or_some]
      rw [joins.category, gained, Option.some_or]
    · exact joins.agree c (List.mem_filterMap.mpr ⟨reading', later, fixed⟩)
  declared := joins.declared
  members := by
    intro hostKey
    rw [joins.members, addTo, Frame.add, List.map_append, List.map_singleton, Tree.render_shift,
      List.append_assoc]
    rfl

theorem Conflicts.cons (conflicts : Conflicts readings (reading.addTo outer) outcome) :
    Conflicts (reading :: readings) outer outcome := by
  obtain ⟨current, requested, first, present, differ, refused⟩ := conflicts
  refine ⟨current, requested, ?_, ?_, differ, refused⟩
  · rw [head?_categories_cons, ← Option.or_assoc]
    exact first
  · obtain ⟨reading', later, fixed⟩ := List.mem_filterMap.mp present
    exact List.mem_filterMap.mpr ⟨reading', List.mem_cons_of_mem _ later, fixed⟩

/-- A text in parentheses adds its reading, or its category is refused. -/
theorem replay_item_cases (reading : Reading) (outer : Outline) :
    (Compatible outer.category reading.outline.category ∧
        outer.replay reading.item.calls = .ok (reading.addTo outer)) ∨
      ∃ current requested, outer.category = some current ∧
        reading.outline.category = some requested ∧ requested ≠ current ∧
        outer.replay reading.item.calls = .error (.categoryConflict current requested) := by
  rw [calls_item]
  by_cases compatible : Compatible outer.category reading.outline.category
  · exact .inl ⟨compatible,
      Outline.replay_enclosed reading.builds.replayed reading.builds.root compatible⟩
  · obtain ⟨current, requested, outside, fixes, differ⟩ :=
      Category.exists_of_not_compatible compatible
    exact .inr ⟨current, requested, outside, fixes, differ.symm,
      Outline.replay_enclosed_conflict reading.builds.replayed outside fixes differ _⟩

/-- The texts behind a connective are added one after the other, up to the first category that
conflicts. -/
theorem replay_others_cases
    (agrees : ∀ declared ∈ outer.current.connective, declared = connective)
    (declared : 2 ≤ outer.current.members.length → outer.current.connective = some connective)
    (readings : List Reading) :
    let calls := Item.callsOthers (readings.map fun reading => (connective, reading.item))
    (∃ next, outer.replay calls = .ok next ∧ Joins connective readings outer next) ∨
      Conflicts readings outer (outer.replay calls) := by
  -- the outline grows with each text, so it is general in the induction
  induction readings generalizing outer with
  | nil =>
    refine .inl ⟨outer, rfl, rfl, Option.or_none.symm, ?_, declared, ?_⟩
    · intro c absent
      cases absent
    · intro hostKey
      exact (List.append_nil _).symm
  | cons reading readings ih =>
    let ready : Outline :=
      { outer with current := { outer.current with connective := some connective } }
    have stepped : outer.step (.declare connective) = .ok ready :=
      Outline.step_eq_ok_iff.mpr (.declared agrees)
    dsimp only
    rw [List.map_cons, Item.callsOthers, Outline.replay, stepped, Except.bind,
      Outline.replay_append]
    rcases reading.replay_item_cases ready with
      ⟨compatible, added⟩ | ⟨current, requested, outside, fixes, differ, refused⟩
    · rw [added, Except.bind]
      have same : ∀ declared ∈ (reading.addTo ready).current.connective,
          declared = connective := by
        rintro _ ⟨⟩
        rfl
      rcases ih same fun _ => rfl with ⟨next, replayed, joins⟩ | conflicts
      · have joined := joins.cons compatible
        exact .inl ⟨next, replayed, joined.around, joined.category, joined.agree, joined.declared,
          joined.members⟩
      · exact .inr conflicts.cons
    · refine .inr ⟨current, requested, ?_, ?_, differ, ?_⟩
      · rw [show outer.category = some current from outside, Option.some_or]
      · exact List.mem_filterMap.mpr ⟨reading, List.mem_cons_self, fixes⟩
      · rw [refused]
        rfl

theorem replay_composite_cases (connective : Connective) (first : Reading)
    (others : List Reading) :
    let calls := (composite connective first others).calls
    (∃ next, Outline.empty.replay calls = .ok next ∧
        Joins connective (first :: others) Outline.empty next) ∨
      Conflicts (first :: others) Outline.empty (Outline.empty.replay calls) := by
  -- nothing is fixed yet, so the first text is always added
  have compatible : Compatible Outline.empty.category first.outline.category :=
    Category.none_compatible _
  have added : Outline.empty.replay first.item.calls = .ok (first.addTo Outline.empty) := by
    rw [calls_item]
    exact Outline.replay_enclosed first.builds.replayed first.builds.root compatible
  dsimp only
  rw [composite, Expression.calls, Outline.replay_append, added, Except.bind]
  have undeclared : ∀ declared ∈ (first.addTo Outline.empty).current.connective,
      declared = connective := by
    intro declared absent
    cases absent
  have single : 2 ≤ (first.addTo Outline.empty).current.members.length →
      (first.addTo Outline.empty).current.connective = some connective := by
    intro several
    simp [addTo, Frame.add, Outline.empty] at several
  rcases replay_others_cases undeclared single others with ⟨next, replayed, joins⟩ | conflicts
  · exact .inl ⟨next, replayed, joins.cons compatible⟩
  · exact .inr conflicts.cons

theorem categories_eq (readings : List Reading) :
    categories readings = readings.filterMap (·.query.category) := by
  rw [categories]
  exact congrArg (readings.filterMap ·) (funext fun reading => reading.describes.category.symm)

/-- The queries that are read all have a text. -/
theorem exists_texts (readings : List Reading) (hostKey : String) :
    ∃ texts : List String,
      readings.map (·.query.render hostKey) = texts.map fun text => .ok (some text) := by
  induction readings with
  | nil => exact ⟨[], rfl⟩
  | cons reading readings ih =>
    obtain ⟨text, rendered⟩ := (ready_of_parse reading.parsed).2.2 hostKey
    obtain ⟨texts, same⟩ := ih
    exact ⟨text :: texts, by rw [List.map_cons, List.map_cons, rendered, same]⟩

/-- The text of the joined members. -/
theorem Joins.render_eq {hostKey : String} {texts : List String}
    (joins : Joins connective (first :: others) Outline.empty next)
    (rendered : (first :: others).map (·.query.render hostKey) =
      texts.map fun text => .ok (some text)) :
    next.tree.render hostKey = .ok (some (connective.joined texts)) := by
  have members := joins.members hostKey
  simp only [← (describes _).render_eq] at members
  have length : next.current.members.length = texts.length := by
    simpa [rendered, Outline.empty] using congrArg List.length members
  have root : next.tree = next.current.close := by
    rw [Outline.tree, joins.around]
    rfl
  rw [root, Frame.close, Tree.render_group, members, rendered]
  cases texts with
  | nil => cases rendered
  | cons text texts =>
    cases texts with
    | nil => exact Tree.join_single _ _
    | cons text' texts =>
      have declared := joins.declared (by rw [length]; simp)
      exact (Tree.join_eq_text_iff (by simp [Outline.empty])).mpr
        ⟨connective, _, declared, rfl, rfl⟩

end Calls

end Reading

open Reading in
/-- Accepted texts in parentheses with one connective between them are accepted if their categories
are the same, and what is sent for them are the texts that are sent for the parts, joined by the
connective. Otherwise the first category conflicts with the other one. A value that begins with a
quote is one that no quote closes, so it may only stand in the last text. -/
theorem parse_composed (connective : Connective) {parsed : List (String × Query)}
    (nonempty : parsed ≠ []) (each : ∀ pair ∈ parsed, Query.parse pair.1 = .ok pair.2)
    (unquoted : ∀ pair ∈ parsed.dropLast, pair.2.Unquoted) :
    let text := connective.composed (parsed.map Prod.fst)
    let categories := parsed.filterMap (·.2.category)
    ((∀ c ∈ categories, ∀ c' ∈ categories, c = c') →
      ∃ query, Query.parse text = .ok query ∧ query.category = categories.head? ∧
        ∀ hostKey, ∃ texts : List String,
          parsed.map (·.2.render hostKey) = texts.map (fun text => .ok (some text)) ∧
          query.render hostKey = .ok (some (connective.joined texts))) ∧
    ((∃ c ∈ categories, ∃ c' ∈ categories, c ≠ c') →
      ∃ current requested, categories.head? = some current ∧ requested ∈ categories ∧
        requested ≠ current ∧
        Query.parse text = .error (.categoryConflict current requested)) := by
  obtain ⟨readings, rfl⟩ := exists_of_parse each
  obtain ⟨first, others, rfl⟩ : ∃ first others, readings = first :: others :=
    List.exists_cons_of_ne_nil (by simpa using nonempty)
  have apart : Apart (first :: others) := by
    intro reading present
    apply unquoted (reading.text, reading.query)
    rw [← List.map_dropLast]
    exact List.mem_map_of_mem present
  intro text categories
  have parts : text = connective.composed ((first :: others).map Reading.text) :=
    congrArg connective.composed List.map_map
  have fixed : categories = Reading.categories (first :: others) := by
    rw [categories_eq]
    exact List.filterMap_map
  have replays := (accepts_composite connective apart).parse_eq
  rw [← parts] at replays
  rcases replay_composite_cases connective first others with
    ⟨next, replayed, joins⟩ | ⟨current, requested, head, present, differ, refused⟩
  · obtain ⟨query, done, describes⟩ := Outline.describes_empty.replay_of_ok replayed
    constructor
    · intro _
      refine ⟨query, replays.trans done, ?_, fun hostKey => ?_⟩
      · rw [describes.category, joins.category, fixed]
        rfl
      · obtain ⟨texts, rendered⟩ := exists_texts (first :: others) hostKey
        refine ⟨texts, ?_, ?_⟩
        · rw [List.map_map]
          exact rendered
        · rw [describes.render_eq]
          exact joins.render_eq rendered
    · rintro ⟨c, present, c', present', differ⟩
      rw [fixed] at present present'
      have same := (joins.agree c present).symm.trans (joins.agree c' present')
      exact absurd (Option.some.inj same) differ
  · rw [← fixed] at head present
    constructor
    · intro agree
      exact absurd (agree requested present current (List.mem_of_head? head)) differ
    · intro _
      exact ⟨current, requested, head, present, differ,
        replays.trans (Outline.describes_empty.replay_of_error refused)⟩

/-- The last text may leave a quote open: the parenthesis behind it ends the value. -/
theorem parse_composed_open_quote :
    let first : Query := ⟨#[⟨none, some .or, [.term (.compare .equal (.fact "os") "a"),
      .term (.compare .equal (.fact "os") "b")]⟩], 0, some .fact⟩
    let last : Query := ⟨#[⟨none, none, [.term (.compare .less (.fact "x") "\x22y")]⟩], 0, some .fact⟩
    let parsed := [("F:os=a or F:os=b", first), ("F:x<\x22y", last)]
    parsed ≠ [] ∧ (∀ pair ∈ parsed, Query.parse pair.1 = .ok pair.2) ∧
      (∀ pair ∈ parsed.dropLast, pair.2.Unquoted) ∧
      ∃ query, Query.parse "(F:os=a or F:os=b) and (F:x<\x22y)" = .ok query ∧
        query.category = some .fact ∧
        ∀ hostKey, ∃ texts : List String,
          [first.render hostKey, last.render hostKey] = texts.map (fun text => .ok (some text)) ∧
          query.render hostKey = .ok (some (Connective.and.joined texts)) := by
  intro first last parsed
  have nonempty : parsed ≠ [] := List.cons_ne_nil _ _
  have readFirst : Expression.parse "F:os=a or F:os=b" =
      .ok ⟨.atom false (.condition .fact "os" (some (.equal, "a"))),
        [(.or, .atom false (.condition .fact "os" (some (.equal, "b"))))]⟩ := by rfl
  have readLast : Expression.parse "F:x<\x22y" =
      .ok ⟨.atom false (.condition .fact "x" (some (.less, "\x22y"))), []⟩ := by rfl
  have each : ∀ pair ∈ parsed, Query.parse pair.1 = .ok pair.2 := by
    intro pair present
    rcases List.mem_cons.mp present with rfl | present
    · rw [Query.parse, readFirst]
      rfl
    · obtain rfl := List.mem_singleton.mp present
      rw [Query.parse, readLast]
      rfl
  have unquoted : ∀ pair ∈ parsed.dropLast, pair.2.Unquoted := by decide
  obtain ⟨query, read, category, rendered⟩ :=
    (parse_composed .and nonempty each unquoted).1 (by decide)
  exact ⟨nonempty, each, unquoted, query, read, category, rendered⟩

end InventoryQuery
