import InventoryQuery.Proofs.Expression.Atoms
/-! # Where items begin and end

An item begins with a parenthesis or a letter, and what stands behind it is the next connective, a
closing parenthesis or the end. A reader that takes as much as it can loses nothing there.
-/

namespace InventoryQuery.Grammar

open Expression
open Text (isBlank isSpacing skipSpacing)

section Letters

/-- Only capital letters have another lower case. -/
theorem toLower_eq_self {c : Char} (other : isHostChar c = false) : c.toLower = c := by
  delta Char.toLower
  split
  · next capital =>
    exfalso
    obtain ⟨low, high⟩ := capital
    have inside : 65 ≤ c.toNat ∧ c.toNat ≤ 90 := ⟨low, high⟩
    simp only [isHostChar, isVisibleExcept, isBlank, Bool.and_eq_false_iff,
      List.all_eq_false] at other
    rcases other with blank | ⟨d, listed, same⟩
    · simp only [Bool.not_eq_false', Bool.or_eq_true, Bool.and_eq_true, decide_eq_true_eq,
        beq_iff_eq] at blank
      omega
    · obtain rfl : c = d := by simpa using same
      simp only [List.mem_cons, List.not_mem_nil, or_false] at listed
      rcases listed with rfl | rfl | rfl | rfl | rfl | rfl | rfl | rfl | rfl <;>
        exact absurd inside (by decide)
  · rfl

theorem isHostChar_of_toLower {c : Char} (letter : isHostChar c.toLower = true) :
    isHostChar c = true := by
  cases same : isHostChar c with
  | true => rfl
  | false => rw [toLower_eq_self same, same] at letter; exact letter

/-- The letters of a keyword may stand in a host specification. -/
theorem Spells.hostChar {word : List Char} {keyword : String} (spelled : Spells word keyword)
    (letters : keyword.toList.all isHostChar = true) : ∀ c ∈ word, HostChar c := by
  intro c present
  refine isVisibleExcept_iff.mp (isHostChar_of_toLower (List.all_eq_true.mp letters _ ?_))
  rw [← spelled]
  exact List.mem_map_of_mem present

end Letters

section Heads

variable {keyChar : Char → Prop} {text rest : List Char}

theorem HostChar.unspaced {c : Char} (letter : HostChar c) (rest : List Char) :
    Unspaced (c :: rest) :=
  unspaced_of_not_blank letter.1 rest

/-- No comparison begins with a letter. -/
theorem HostChar.comparison?_eq_none {c : Char} (letter : HostChar c) (rest : List Char) :
    comparison? (c :: rest) = none := by
  have sign : c ≠ '>' ∧ c ≠ '<' ∧ c ≠ '=' ∧ c ≠ '~' := by
    refine ⟨?_, ?_, ?_, ?_⟩ <;> rintro rfl <;> simp [HostChar, VisibleExcept] at letter
  simp [comparison?, sign]

/-- A keyword begins with a letter. -/
theorem Spells.head {word : List Char} {keyword : String} (spelled : Spells word keyword)
    (letters : keyword.toList.all isHostChar = true) (nonempty : keyword.toList ≠ []) :
    ∃ c tail, word = c :: tail ∧ HostChar c := by
  have all := spelled.hostChar letters
  cases word with
  | nil => exact absurd spelled.symm nonempty
  | cons c tail => exact ⟨c, tail, rfl, all c List.mem_cons_self⟩

theorem Spells.connective_head {connective : Connective} {word : List Char}
    (spelled : Spells word connective.text) : ∃ c tail, word = c :: tail ∧ HostChar c :=
  spelled.head (by cases connective <;> decide) (by cases connective <;> decide)

theorem Atom.head {atom : InventoryQuery.Atom} (derived : Atom keyChar text rest atom) :
    ∃ c tail, text = c :: tail ∧ HostChar c := by
  cases derived with
  | hosts listed =>
    cases listed with
    | one host => exact host.1.head
    | more host _ => exact host.1.head
  | resource named => exact ⟨_, _, rfl, isVisibleExcept_iff.mp rfl⟩
  | @tested _ _ _ category _ _ named compared =>
    cases category
    · exact ⟨_, _, rfl, isVisibleExcept_iff.mp rfl⟩
    · exact ⟨_, _, rfl, isVisibleExcept_iff.mp rfl⟩

/-- An item begins with a parenthesis or with a letter of its first word. -/
theorem Derives.head {item : Item} (derived : Derives keyChar (.item item) text rest) :
    ∃ c tail, text = c :: tail ∧ (c = '(' ∨ HostChar c) := by
  cases derived with
  | atom plain =>
    obtain ⟨c, tail, same, letter⟩ := plain.head
    exact ⟨c, tail, same, .inr letter⟩
  | negated spelled spacing apart plain =>
    obtain ⟨c, tail, rfl, letter⟩ := spelled.head (by decide) (by decide)
    exact ⟨c, _, rfl, .inr letter⟩
  | group spacing head tail spacing' => exact ⟨_, _, rfl, .inl rfl⟩

theorem Derives.unspaced {item : Item} (derived : Derives keyChar (.item item) text rest) :
    Unspaced text := by
  obtain ⟨c, tail, rfl, rfl | letter⟩ := derived.head
  · rintro d first
    cases first
    rfl
  · exact letter.unspaced tail

/-! What follows the stretch of a derivation ends the text. -/

theorem Word.suffix {kind : Char → Prop} {word : String} (run : Word kind text rest word) :
    rest <:+ text :=
  ⟨word.toList, run.split.symm⟩

theorem Hosts.suffix {names : List String} (listed : Hosts text rest names) : rest <:+ text := by
  induction listed with
  | one host => exact host.1.suffix
  | more host _ ih => exact ih.trans ((List.suffix_cons _ _).trans host.1.suffix)

theorem Value.suffix {comparison : Comparison} {gap : List Char} {value : String}
    (valued : Value comparison gap text rest value) : rest <:+ text := by
  cases valued with
  | @quoted body _ closed =>
    exact (List.suffix_cons _ _).trans (List.suffix_append ('\x22' :: body) _)
  | bare run _ _ => exact run.suffix

theorem Test.suffix {test : Comparison × String} (tested : Test text rest test) :
    rest <:+ text := by
  cases tested with
  | intro spacing spacing' valued =>
    refine List.suffix_append_of_suffix (List.suffix_append_of_suffix ?_)
    exact List.suffix_append_of_suffix valued.suffix

theorem Atom.suffix {atom : InventoryQuery.Atom} (derived : Atom keyChar text rest atom) :
    rest <:+ text := by
  cases derived with
  | hosts listed => exact listed.suffix
  | resource named => exact named.suffix.trans (List.suffix_append ['R', ':'] _)
  | tested named compared =>
    have inner := compared.suffix.trans named.suffix
    exact List.suffix_append_of_suffix (inner.trans (List.suffix_cons _ _))

theorem Derives.suffix {phrase : Phrase} (derived : Derives keyChar phrase text rest) :
    rest <:+ text := by
  induction derived with
  | atom plain => exact plain.suffix
  | negated spelled spacing apart plain =>
    exact List.suffix_append_of_suffix (List.suffix_append_of_suffix plain.suffix)
  | group spacing head tail spacing' ihHead ihTail =>
    have inner := (List.suffix_append_of_suffix (List.suffix_cons _ _)).trans
      (ihTail.trans ihHead)
    exact (List.suffix_append_of_suffix inner).trans (List.suffix_cons _ _)
  | done => exact List.suffix_rfl
  | next spacing apart spelled spacing' apart' head tail ihHead ihTail =>
    refine List.suffix_append_of_suffix (List.suffix_append_of_suffix ?_)
    exact List.suffix_append_of_suffix (ihTail.trans ihHead)

end Heads

section Connectives

variable {connective : Connective} {text rest : List Char}

/-- What an expression may stand before: what an item may stand before, if it does not go on with a
connective. -/
structure Stops (rest : List Char) : Prop where
  follows : Follows rest
  noConnective : connective? rest = none

/-- Spacing, and then the end or a closing parenthesis. -/
def Ends (rest : List Char) : Prop :=
  ∀ c ∈ (skipSpacing rest).head?, c = ')'

theorem Spacing.ends {gap : List Char} (spacing : Spacing gap) : Ends gap := by
  rintro c first
  rw [← List.append_nil gap, spacing.skipSpacing_append] at first
  cases first

theorem Spacing.ends_close {gap : List Char} (spacing : Spacing gap) (rest : List Char) :
    Ends (gap ++ ')' :: rest) := by
  rintro c first
  rw [spacing.skipSpacing_append] at first
  cases first
  rfl

theorem Ends.skipSpacing_cases (ends : Ends rest) :
    skipSpacing rest = [] ∨ ∃ tail, skipSpacing rest = ')' :: tail := by
  match same : skipSpacing rest with
  | [] => exact .inl rfl
  | c :: tail => exact .inr ⟨tail, by rw [ends c (by rw [same]; rfl)]⟩

theorem Ends.follows (ends : Ends rest) : Follows rest := by
  refine ⟨fun c first => ?_, ?_⟩
  · cases spacing : isSpacing c with
    | true => exact .inl rfl
    | false =>
      refine .inr (ends c ?_)
      have unspaced : Unspaced rest := fun d first' => by
        cases Option.mem_unique first first'
        exact spacing
      rwa [unspaced.skipSpacing_eq]
  · rcases ends.skipSpacing_cases with same | ⟨tail, same⟩ <;> rw [same] <;> rfl

theorem connective?_eq (text : List Char) :
    connective? text = (spacing? text).bind fun text =>
      (((keyword? "and" text).map (Connective.and, ·)).or
        ((keyword? "or" text).map (Connective.or, ·))).bind fun found =>
          (spacing? found.2).map (found.1, ·) := by
  rw [connective?]
  cases spacing? text with
  | none => rfl
  | some text =>
    simp only [bind, Option.bind_some, pure]
    cases keyword? "and" text with
    | some after => cases h : spacing? after <;> simp [h]
    | none =>
      cases keyword? "or" text with
      | some after => cases h : spacing? after <;> simp [h]
      | none => rfl

theorem connective?_eq_none (noAnd : (keyword? "and" (skipSpacing text)).bind spacing? = none)
    (noOr : (keyword? "or" (skipSpacing text)).bind spacing? = none) :
    connective? text = none := by
  rw [connective?_eq]
  cases taken : spacing? text with
  | none => rfl
  | some after =>
    obtain ⟨_, _, _, _, rfl⟩ := spacing?_sound taken
    rw [Option.bind_some]
    cases first : keyword? "and" (skipSpacing text) with
    | some after =>
      rw [first, Option.bind_some] at noAnd
      simp [noAnd]
    | none =>
      cases second : keyword? "or" (skipSpacing text) with
      | some after =>
        rw [second, Option.bind_some] at noOr
        simp [noOr]
      | none => rfl

theorem Ends.stops (ends : Ends rest) : Stops rest := by
  refine ⟨ends.follows, ?_⟩
  rcases ends.skipSpacing_cases with same | ⟨tail, same⟩
  · exact connective?_eq_none (by rw [same]; rfl) (by rw [same]; rfl)
  · rw [connective?_eq_none] <;> rw [same, keyword?_cons_of_ne rfl (by decide), Option.bind_none]

theorem connective?_sound (taken : connective? text = some (connective, rest)) :
    ∃ gap word gap', Spacing gap ∧ gap ≠ [] ∧ Spells word connective.text ∧
      Spacing gap' ∧ gap' ≠ [] ∧ text = gap ++ (word ++ (gap' ++ rest)) := by
  simp only [connective?_eq, Option.bind_eq_some_iff, Option.or_eq_some_iff,
    Option.map_eq_some_iff] at taken
  obtain ⟨text', before, ⟨found, after⟩, read, rest', behind, same⟩ := taken
  have spelled : keyword? found.text text' = some after := by
    rcases read with ⟨_, read, same⟩ | ⟨_, _, read, same⟩ <;> cases same <;> exact read
  cases same
  obtain ⟨gap, spacing, apart, rfl, _⟩ := spacing?_sound before
  obtain ⟨word, letters, rfl⟩ := keyword?_sound spelled
  obtain ⟨gap', spacing', apart', rfl, _⟩ := spacing?_sound behind
  exact ⟨gap, word, gap', spacing, apart, letters, spacing', apart', rfl⟩

theorem connective?_suffix (taken : connective? text = some (connective, rest)) :
    rest <:+ text := by
  obtain ⟨gap, word, gap', _, _, _, _, _, rfl⟩ := connective?_sound taken
  exact List.suffix_append_of_suffix (List.suffix_append_of_suffix (List.suffix_append gap' rest))

theorem connective?_complete {gap word gap' : List Char} (spacing : Spacing gap)
    (apart : gap ≠ []) (spelled : Spells word connective.text) (spacing' : Spacing gap')
    (apart' : gap' ≠ []) (unspaced : Unspaced rest) :
    connective? (gap ++ (word ++ (gap' ++ rest))) = some (connective, rest) := by
  obtain ⟨c, tail, same, letter⟩ := spelled.connective_head
  have wordUnspaced : Unspaced (word ++ (gap' ++ rest)) := same ▸ letter.unspaced _
  have read := keyword?_complete spelled (gap' ++ rest)
  have behind := spacing?_complete spacing' apart' unspaced
  rw [connective?_eq, spacing?_complete spacing apart wordUnspaced, Option.bind_some]
  cases connective with
  | and =>
    change keyword? "and" _ = _ at read
    simp only [read, Option.map_some, Option.some_or, Option.bind_some, behind]
  | or =>
    change keyword? "or" _ = _ at read
    have other : keyword? "and" (word ++ (gap' ++ rest)) = none := by
      rw [same] at spelled ⊢
      have first : c.toLower = 'o' := (List.cons.inj spelled).1
      exact keyword?_cons_of_ne rfl (by rw [first]; decide) _
    simp only [other, read, Option.map_none, Option.none_or, Option.map_some, Option.bind_some,
      behind]

/-- An item may stand before the items after it. -/
theorem Derives.follows {keyChar : Char → Prop} {others : List (Connective × Item)}
    (derived : Derives keyChar (.others others) text rest) (follows : Follows rest) :
    Follows text := by
  cases derived with
  | done => exact follows
  | @next gap word gap' _ _ _ _ _ _ spacing apart spelled spacing' apart' head tail =>
    obtain ⟨c, tail', same, letter⟩ := spelled.connective_head
    refine ⟨fun d first => ?_, ?_⟩
    · cases gap with
      | nil => exact absurd rfl apart
      | cons _ gap =>
        cases first
        exact .inl spacing.isSpacing_head
    · rw [spacing.skipSpacing_append, same, List.cons_append, (letter.unspaced _).skipSpacing_eq]
      exact letter.comparison?_eq_none _

end Connectives

end InventoryQuery.Grammar
