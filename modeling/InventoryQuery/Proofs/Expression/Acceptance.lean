import InventoryQuery.Proofs.Expression.Joints
/-! # The reader accepts the grammar

`Expression.parse` finds an expression for a text exactly if the grammar derives the text for it.
Greed loses no derivation because of what an item stands before. The fuel of the reader counts
parentheses, and no derivation nests deeper.
-/

namespace InventoryQuery.Grammar

open Expression
open Text (isBlank isSpacing skipSpacing)

section Conditions

variable {text rest : List Char} {item : Item} {atom : InventoryQuery.Atom}

theorem readCondition_sound (read : readCondition text = .ok (item, rest)) :
    Derives KeyChar (.item item) text rest := by
  have readAtom_of_map {text : List Char} {negated : Bool}
      (read : (readAtom text).map (fun found => (Item.atom negated found.1, found.2)) =
        .ok (item, rest)) :
      ∃ atom, item = .atom negated atom ∧ Atom KeyChar text rest atom := by
    cases found : readAtom text with
    | error failure => rw [found] at read; cases read
    | ok result =>
      rw [found] at read
      cases read
      exact ⟨_, rfl, readAtom_sound found⟩
  rw [readCondition] at read
  split at read
  · next after negation =>
    obtain ⟨middle, taken, behind⟩ := Option.bind_eq_some_iff.mp negation
    obtain ⟨atom, rfl, plain⟩ := readAtom_of_map read
    obtain ⟨word, spelled, rfl⟩ := keyword?_sound taken
    obtain ⟨gap, spacing, apart, rfl, _⟩ := spacing?_sound behind
    exact .negated spelled spacing apart plain
  · obtain ⟨atom, rfl, plain⟩ := readAtom_of_map read
    exact .atom plain

/-- The first word of a host list is a host, so it is no keyword. -/
theorem Hosts.no_keyword {names : List String} {keyword : String} {word after : List Char}
    (listed : Hosts (word ++ after) rest names) (follows : Follows rest)
    (known : keyword ∈ ["and", "or", "not"]) (spelled : Spells word keyword)
    (stop : ∀ c ∈ after.head?, isHostChar c = false) : False := by
  have ofHost : ∀ keyword ∈ ["and", "or", "not"],
      keyword.toList.all isHostChar = true ∧ keyword.toList ≠ [] := by decide
  obtain ⟨letters, nonempty⟩ := ofHost keyword known
  have run : Word HostChar (word ++ after) after (String.ofList word) := by
    refine ⟨?_, ?_, ?_⟩ <;> rw [String.toList_ofList]
    · rintro rfl
      exact nonempty spelled.symm
    · exact spelled.hostChar letters
  have first {rest : List Char} {name : String} (host : Host (word ++ after) rest name)
      (stop' : ∀ c ∈ rest.head?, isHostChar c = false) : False := by
    have same := (host.1.takeWhile_eq isVisibleExcept_iff stop').1.symm.trans
      (run.takeWhile_eq isVisibleExcept_iff stop).1
    rw [String.toList_ofList] at same
    exact host.2 keyword known (same ▸ spelled)
  cases listed with
  | one host => exact first host (follows.stops isVisibleExcept_of_blank rfl)
  | more host _ => exact first host (by rintro c head; cases head; rfl)

/-- An atom does not begin with a keyword that spacing follows. -/
theorem Atom.no_keyword {keyChar : Char → Prop} {keyword : String}
    (derived : Atom keyChar text rest atom) (follows : Follows rest)
    (known : keyword ∈ ["and", "or", "not"]) : (keyword? keyword text).bind spacing? = none := by
  obtain ⟨letter, letters, spelling, notF, notR⟩ : ∃ letter letters,
      keyword.toList = letter :: letters ∧ 'F'.toLower ≠ letter ∧ 'R'.toLower ≠ letter := by
    simp only [List.mem_cons, List.not_mem_nil, or_false] at known
    rcases known with rfl | rfl | rfl <;> exact ⟨_, _, rfl, by decide, by decide⟩
  cases derived with
  | hosts listed =>
    rw [Option.bind_eq_none_iff]
    intro after taken
    cases behind : spacing? after with
    | none => rfl
    | some rest' =>
      exfalso
      obtain ⟨word, spelled, rfl⟩ := keyword?_sound taken
      obtain ⟨gap, spacing, apart, rfl, _⟩ := spacing?_sound behind
      obtain ⟨d, gap, rfl⟩ := List.exists_cons_of_ne_nil apart
      refine listed.no_keyword follows known spelled fun c first => ?_
      cases first
      exact isVisibleExcept_of_blank spacing.isBlank_head
  | resource named => rw [keyword?_cons_of_ne spelling notR, Option.bind_none]
  | @tested _ _ _ category _ _ named compared =>
    cases category
    · exact (congrArg (Option.bind · spacing?) (keyword?_cons_of_ne spelling notF _))
    · exact (congrArg (Option.bind · spacing?) (keyword?_cons_of_ne spelling notR _))

theorem readCondition_complete (derived : Atom KeyChar text rest atom) (follows : Follows rest) :
    readCondition text = .ok (.atom false atom, rest) := by
  rw [readCondition, derived.no_keyword follows (by decide), readAtom_complete derived follows]
  rfl

theorem readCondition_complete_negated {word gap : List Char} (spelled : Spells word "not")
    (spacing : Spacing gap) (apart : gap ≠ []) (derived : Atom KeyChar text rest atom)
    (follows : Follows rest) :
    readCondition (word ++ (gap ++ text)) = .ok (.atom true atom, rest) := by
  obtain ⟨c, tail, rfl, letter⟩ := derived.head
  rw [readCondition, keyword?_complete spelled, Option.bind_some,
    spacing?_complete spacing apart (letter.unspaced tail)]
  simp only [readAtom_complete derived follows]
  rfl

end Conditions

section Items

variable {text rest : List Char} {item : Item} {others : List (Connective × Item)}
  {expression : Expression}

/-- A stretch of text derived as an expression. -/
def Reads (text rest : List Char) (expression : Expression) : Prop :=
  ∃ middle, Derives KeyChar (.item expression.first) text middle ∧
    Derives KeyChar (.others expression.others) middle rest

theorem readItem_sound {inner : Reader Expression}
    (innerSound : ∀ {text rest expression},
      inner text = .ok (expression, rest) → Reads text rest expression)
    (read : readItem inner text = .ok (item, rest)) : Derives KeyChar (.item item) text rest := by
  unfold readItem at read
  split at read
  · next tail =>
    split at read
    · exact readCondition_sound read
    · cases read
    · next expression after found =>
      split at read
      · next after' closing =>
        cases read
        obtain ⟨middle, head, more⟩ := innerSound found
        obtain ⟨gap, spacing, same⟩ := exists_spacing tail
        obtain ⟨gap', spacing', same'⟩ := exists_spacing after
        rw [closing] at same'
        rw [same]
        exact .group spacing head (same' ▸ more) spacing'
      · exact readCondition_sound read
  · exact readCondition_sound read

theorem readOthers_sound {reader : Reader Item}
    (readerSound : ∀ {text rest item},
      reader text = .ok (item, rest) → Derives KeyChar (.item item) text rest)
    {fuel : Nat} (read : readOthers reader fuel text = .ok (others, rest)) :
    Derives KeyChar (.others others) text rest := by
  induction fuel generalizing text others with
  | zero => cases read; exact .done
  | succ fuel ih =>
    rw [readOthers] at read
    split at read
    · cases read; exact .done
    · next connective after joined =>
      split at read
      · cases read; exact .done
      · cases read
      · next next after' found =>
        cases more : readOthers reader fuel after' with
        | error failure => rw [more] at read; cases read
        | ok result =>
          rw [more] at read
          cases read
          obtain ⟨gap, word, gap', spacing, apart, spelled, spacing', apart', rfl⟩ :=
            connective?_sound joined
          exact .next spacing apart spelled spacing' apart' (readerSound found) (ih more)

theorem readWithin_sound {fuel : Nat} (read : readWithin fuel text = .ok (expression, rest)) :
    Reads text rest expression := by
  induction fuel generalizing text rest expression with
  | zero => cases read
  | succ fuel ih =>
    have itemSound {text rest : List Char} {item : Item}
        (read : readItem (readWithin fuel) text = .ok (item, rest)) :
        Derives KeyChar (.item item) text rest := readItem_sound ih read
    rw [readWithin] at read
    cases head : readItem (readWithin fuel) text with
    | error failure => rw [head] at read; cases read
    | ok first =>
      obtain ⟨first, middle⟩ := first
      simp only [head, bind, Except.bind] at read
      cases more : readOthers (readItem (readWithin fuel)) middle.length middle with
      | error failure => rw [more] at read; cases read
      | ok result =>
        rw [more] at read
        cases read
        exact ⟨middle, itemSound head, readOthers_sound itemSound more⟩

theorem readItem_of_hostChar {inner : Reader Expression} {c : Char} {tail : List Char}
    (letter : HostChar c) : readItem inner (c :: tail) = readCondition (c :: tail) := by
  unfold readItem
  split
  · next same =>
    cases same
    simp [HostChar, VisibleExcept] at letter
  · rfl

theorem Derives.count_le {phrase : Phrase} (derived : Derives KeyChar phrase text rest) :
    rest.count '(' ≤ text.count '(' :=
  derived.suffix.sublist.count_le '('

theorem Derives.length_le {phrase : Phrase} (derived : Derives KeyChar phrase text rest) :
    rest.length ≤ text.length :=
  derived.suffix.length_le

theorem readWithin_of_parts {fuel : Nat} {first : Item} {middle : List Char}
    (head : readItem (readWithin fuel) text = .ok (first, middle))
    (more : readOthers (readItem (readWithin fuel)) middle.length middle = .ok (others, rest)) :
    readWithin (fuel + 1) text = .ok (⟨first, others⟩, rest) := by
  simp only [readWithin, head, more, bind, Except.bind, pure, Except.pure]

/-- A derivation is read with as much fuel as the text has parentheses to open. The induction is on
the derivation: the items after an item are what it stands before. -/
theorem Derives.read {phrase : Phrase} (derived : Derives KeyChar phrase text rest) {fuel : Nat}
    (enough : text.count '(' ≤ fuel) :
    match phrase with
    | .item item => Follows rest → readItem (readWithin fuel) text = .ok (item, rest)
    | .others others => Stops rest → ∀ {length : Nat}, text.length ≤ length →
        readOthers (readItem (readWithin fuel)) length text = .ok (others, rest) := by
  induction derived generalizing fuel with
  | atom plain =>
    intro follows
    obtain ⟨c, tail, rfl, letter⟩ := plain.head
    rw [readItem_of_hostChar letter]
    exact readCondition_complete plain follows
  | negated spelled spacing apart plain =>
    intro follows
    have read := readCondition_complete_negated spelled spacing apart plain follows
    obtain ⟨c, tail, rfl, letter⟩ := spelled.head (by decide) (by decide)
    exact (readItem_of_hostChar letter).trans read
  | @group gap gap' text middle rest first others spacing head tail spacing' ihHead ihTail =>
    intro follows
    -- the opening parenthesis pays for one more level, so its inside is read with one fuel less
    have inside : text.count '(' < fuel := by
      have := (List.suffix_append gap text).sublist.count_le '('
      rw [List.count_cons_self] at enough
      omega
    obtain ⟨fuel, rfl⟩ : ∃ less, fuel = less + 1 := ⟨fuel - 1, by omega⟩
    have stops := (spacing'.ends_close rest).stops
    have readHead := ihHead (show text.count '(' ≤ fuel by omega) (tail.follows stops.follows)
    have readTail := ihTail (show middle.count '(' ≤ fuel from head.count_le.trans (by omega)) stops
      (Nat.le_refl _)
    have inner := readWithin_of_parts readHead readTail
    have closing : skipSpacing (gap' ++ ')' :: rest) = ')' :: rest := spacing'.skipSpacing_append _
    simp only [readItem, spacing.skipSpacing_append, head.unspaced.skipSpacing_eq, inner, closing]
  | done =>
    intro stops length within
    cases length with
    | zero => rfl
    | succ length => rw [readOthers, stops.noConnective]
  | @next gap word gap' text middle rest connective item others spacing apart spelled spacing'
      apart' head tail ihHead ihTail =>
    intro stops length within
    have fewer : text.count '(' ≤ fuel := by
      simp only [List.count_append] at enough
      omega
    have readHead := ihHead fewer (tail.follows stops.follows)
    have shorter : middle.length < length := by
      have positive := List.length_pos_iff.mpr apart
      have := head.length_le
      simp only [List.length_append] at within
      omega
    obtain ⟨length, rfl⟩ : ∃ less, length = less + 1 := ⟨length - 1, by omega⟩
    have readTail := ihTail (head.count_le.trans fewer) stops (show middle.length ≤ length by omega)
    rw [readOthers, connective?_complete spacing apart spelled spacing' apart' head.unspaced]
    simp only [readHead, readTail, bind, Except.bind, pure, Except.pure]

theorem Reads.unspaced (reads : Reads text rest expression) : Unspaced text := by
  obtain ⟨middle, head, more⟩ := reads
  exact head.unspaced

/-- What is derived as an expression is read as it, in front of a text where expressions stop. -/
theorem Reads.readWithin_eq (reads : Reads text rest expression) (stops : Stops rest)
    {fuel : Nat} (enough : text.count '(' ≤ fuel) :
    readWithin (fuel + 1) text = .ok (expression, rest) := by
  obtain ⟨middle, head, more⟩ := reads
  exact readWithin_of_parts (head.read enough (more.follows stops.follows))
    (more.read (head.count_le.trans enough) stops (Nat.le_refl _))

end Items

section Parse

variable {text : String} {expression : Expression}

theorem parse_sound (accepted : Expression.parse text = .ok expression) :
    Accepts KeyChar text expression := by
  simp only [Expression.parse] at accepted
  split at accepted
  · cases accepted
  · split at accepted
    · cases accepted
    · next rest found =>
      split at accepted
      · next ending =>
        cases accepted
        obtain ⟨middle, head, more⟩ := readWithin_sound found
        obtain ⟨gap, spacing, same⟩ := exists_spacing text.toList
        obtain ⟨gap', spacing', same'⟩ := exists_spacing rest
        rw [ending, List.append_nil] at same'
        exact ⟨gap, _, middle, gap', same, spacing, head, same' ▸ more, spacing'⟩
      · cases accepted

/-- What is derived at the front of a text is all of it, or what follows is where reading stops. -/
theorem Reads.parse_eq {gap start rest : List Char} (reads : Reads start rest expression)
    (stops : Stops rest) (spacing : Spacing gap) (split : text.toList = gap ++ start) :
    Expression.parse text =
      match skipSpacing rest with
      | [] => .ok expression
      | unread => .error (syntaxError text.toList unread) := by
  have found : Expression.read start = .ok (expression, rest) :=
    reads.readWithin_eq stops (Nat.le_refl _)
  have notBlank : (gap ++ start).all isBlank = false := by
    obtain ⟨middle, head, _⟩ := reads
    obtain ⟨c, tail, same, letter⟩ := head.head
    refine List.all_eq_false.mpr ⟨c, by simp [same], ?_⟩
    rcases letter with rfl | letter
    · decide
    · simp [letter.1]
  cases left : skipSpacing rest <;>
    simp only [Expression.parse, split, notBlank, spacing.skipSpacing_append,
      reads.unspaced.skipSpacing_eq, found, left, Bool.false_eq_true, if_false]

theorem Spacing.skipSpacing_eq_nil {gap : List Char} (spacing : Spacing gap) :
    skipSpacing gap = [] := by
  rw [← List.append_nil gap, spacing.skipSpacing_append]
  rfl

theorem parse_complete (accepted : Accepts KeyChar text expression) :
    Expression.parse text = .ok expression := by
  obtain ⟨gap, start, middle, gap', split, spacing, head, more, spacing'⟩ := accepted
  have reads : Reads start gap' expression := ⟨middle, head, more⟩
  rw [reads.parse_eq spacing'.ends.stops spacing split, spacing'.skipSpacing_eq_nil]

/-- A text is read as an expression exactly if the grammar derives it as this expression. -/
theorem parse_eq_ok_iff :
    Expression.parse text = .ok expression ↔ Accepts KeyChar text expression :=
  ⟨parse_sound, parse_complete⟩

/-- The grammar is not ambiguous. -/
theorem Accepts.unique {other : Expression} (accepted : Accepts KeyChar text expression)
    (accepted' : Accepts KeyChar text other) : expression = other :=
  Except.ok.inj ((parse_complete accepted).symm.trans (parse_complete accepted'))

end Parse

section Keys

variable {keyChar keyChar' : Char → Prop} {text rest : List Char}

theorem Word.mono (wider : ∀ c, keyChar c → keyChar' c) {word : String}
    (run : Word keyChar text rest word) : Word keyChar' text rest word :=
  ⟨run.split, run.nonempty, fun c present => wider c (run.all c present)⟩

theorem Atom.mono (wider : ∀ c, keyChar c → keyChar' c) {atom : InventoryQuery.Atom}
    (derived : Atom keyChar text rest atom) : Atom keyChar' text rest atom := by
  cases derived with
  | hosts listed => exact .hosts listed
  | resource named => exact .resource (named.mono wider)
  | tested named compared => exact .tested (named.mono wider) compared

/-- With more characters for keys the grammar derives no less. -/
theorem Derives.mono (wider : ∀ c, keyChar c → keyChar' c) {phrase : Phrase}
    (derived : Derives keyChar phrase text rest) : Derives keyChar' phrase text rest := by
  induction derived with
  | atom plain => exact .atom (plain.mono wider)
  | negated spelled spacing apart plain =>
    exact .negated spelled spacing apart (plain.mono wider)
  | group spacing _ _ spacing' ihHead ihTail => exact .group spacing ihHead ihTail spacing'
  | done => exact .done
  | next spacing apart spelled spacing' apart' _ _ ihHead ihTail =>
    exact .next spacing apart spelled spacing' apart' ihHead ihTail

theorem Accepts.mono (wider : ∀ c, keyChar c → keyChar' c) {text : String}
    {expression : Expression} (accepted : Accepts keyChar text expression) :
    Accepts keyChar' text expression := by
  obtain ⟨gap, start, middle, gap', split, spacing, head, more, spacing'⟩ := accepted
  exact ⟨gap, start, middle, gap', split, spacing, head.mono wider, more.mono wider, spacing'⟩

/-- The characters of a key are of the class for keys. -/
theorem Derives.key {negated : Bool} {category : Category} {key : String}
    {test : Option (Comparison × String)}
    (derived : Derives keyChar (.item (.atom negated (.condition category key test))) text rest) :
    ∀ c ∈ key.toList, keyChar c := by
  have ofAtom {text : List Char}
      (plain : Atom keyChar text rest (.condition category key test)) :
      ∀ c ∈ key.toList, keyChar c := by
    cases plain with
    | resource named => exact named.all
    | tested named compared => exact named.all
  cases derived with
  | atom plain => exact ofAtom plain
  | negated spelled spacing apart plain => exact ofAtom plain

end Keys

end InventoryQuery.Grammar
