import InventoryQuery.Proofs.Expression.Words
import Mathlib.Data.List.TakeWhile
/-! # Atoms

A reader of an atom takes what the grammar has for it. The converse holds in front of a text that
an item may stand before: the end, a closing parenthesis or spacing, and no comparison behind the
spacing.
-/

namespace InventoryQuery.Grammar

open Expression
open Text (isBlank isSpacing skipSpacing)

/-- What an item may stand before. -/
structure Follows (rest : List Char) : Prop where
  head : ∀ c ∈ rest.head?, isSpacing c = true ∨ c = ')'
  noComparison : comparison? (skipSpacing rest) = none

/-- A word of characters that are neither blank nor closing parentheses ends there. -/
theorem Follows.stops {rest : List Char} (follows : Follows rest) {isWordChar : Char → Bool}
    (noBlank : ∀ {c}, isBlank c = true → isWordChar c = false) (noClose : isWordChar ')' = false) :
    ∀ c ∈ rest.head?, isWordChar c = false := by
  intro c first
  rcases follows.head c first with spacing | rfl
  · exact noBlank (Text.isBlank_of_isSpacing spacing)
  · exact noClose

theorem Follows.head_ne {rest : List Char} (follows : Follows rest) {c : Char}
    (visible : isSpacing c = false) (other : c ≠ ')') : c ∉ rest.head? := by
  intro first
  rcases follows.head c first with spacing | close
  · rw [visible] at spacing
    cases spacing
  · exact other close

section Test

variable {comparison : Comparison} {text rest : List Char} {value : String}

/-- An equals sign after a comparison would make another comparison of it. -/
def Settled (comparison : Comparison) (rest : List Char) : Prop :=
  comparison = .greater ∨ comparison = .less → rest.head? ≠ some '='

private theorem head?_ne {rest : List Char} {c : Char} (other : ∀ tail, rest = c :: tail → False) :
    rest.head? ≠ some c := by
  intro first
  obtain ⟨tail, same⟩ := List.head?_eq_some_iff.mp first
  exact other tail same

theorem comparison?_sound (taken : comparison? text = some (comparison, rest)) :
    text = comparison.text.toList ++ rest ∧ Settled comparison rest := by
  unfold comparison? at taken
  split at taken <;> cases taken
  · exact ⟨rfl, by simp [Settled]⟩
  · exact ⟨rfl, by simp [Settled]⟩
  · exact ⟨rfl, by simp [Settled]⟩
  · next other => exact ⟨rfl, fun _ => head?_ne fun tail same => other tail (by rw [same])⟩
  · next other => exact ⟨rfl, fun _ => head?_ne fun tail same => other tail (by rw [same])⟩
  · exact ⟨rfl, by simp [Settled]⟩

theorem comparison?_complete (settled : Settled comparison rest) :
    comparison? (comparison.text.toList ++ rest) = some (comparison, rest) := by
  cases comparison with
  | equal | atLeast | atMost | matching => rfl
  | greater =>
    have other := settled (.inl rfl)
    match rest with
    | [] => rfl
    | c :: rest =>
      have : c ≠ '=' := by simpa using other
      simp [Comparison.text, comparison?, this]
  | less =>
    have other := settled (.inr rfl)
    match rest with
    | [] => rfl
    | c :: rest =>
      have : c ≠ '=' := by simpa using other
      simp [Comparison.text, comparison?, this]

theorem unspaced_comparison (comparison : Comparison) (rest : List Char) :
    Unspaced (comparison.text.toList ++ rest) := by
  rintro c first
  cases comparison <;> cases first <;> rfl

theorem quoted?_sound (taken : quoted? text = some (value, rest)) :
    ∃ body, '\x22' ∉ body ∧ text = '\x22' :: body ++ '\x22' :: rest ∧
      value = String.ofList body := by
  unfold quoted? at taken
  split at taken
  · next tail =>
    split at taken
    · cases taken
    · next c after dropped =>
      cases taken
      have closing : c = '\x22' := by
        have stopped := List.head?_dropWhile_not (· ≠ '\x22') tail
        rw [dropped] at stopped
        simpa using stopped
      subst closing
      refine ⟨tail.takeWhile (· ≠ '\x22'), ?_, ?_, rfl⟩
      · intro present
        simpa using List.all_eq_true.mp List.all_takeWhile _ present
      · rw [List.cons_append, ← dropped, List.takeWhile_append_dropWhile]
  · cases taken

theorem quoted?_complete {body : List Char} (closed : '\x22' ∉ body) (rest : List Char) :
    quoted? ('\x22' :: body ++ '\x22' :: rest) = some (String.ofList body, rest) := by
  have inside : ∀ c ∈ body, decide (c ≠ '\x22') = true := by
    rintro c present
    exact decide_eq_true fun same => closed (same ▸ present)
  rw [List.cons_append, quoted?, List.dropWhile_append_of_pos inside,
    List.takeWhile_append_of_pos inside]
  simp

/-- A quote opens a quoted value exactly if another quote follows. -/
theorem quoted?_eq_none_iff {tail : List Char} :
    quoted? ('\x22' :: tail) = none ↔ '\x22' ∉ tail := by
  have absent : tail.dropWhile (· ≠ '\x22') = [] ↔ '\x22' ∉ tail := by
    rw [List.dropWhile_eq_nil_iff]
    constructor
    · intro all present
      simpa using all _ present
    · intro absent c present
      exact decide_eq_true fun same => absent (same ▸ present)
  rw [← absent, quoted?]
  split <;> simp_all

theorem value?_sound {gap : List Char}
    (noEquals : text.head? = some '=' → comparison = .greater ∨ comparison = .less → gap ≠ [])
    (taken : value? text = some (value, rest)) : Value comparison gap text rest value := by
  rw [value?] at taken
  cases quotes : quoted? text with
  | some read =>
    rw [quotes] at taken
    obtain rfl := Option.some.inj taken
    obtain ⟨body, closed, rfl, rfl⟩ := quoted?_sound quotes
    exact .quoted closed
  | none =>
    rw [quotes, Option.none_or] at taken
    refine .bare (word?_sound isVisibleExcept_iff taken) ?_ noEquals
    intro first
    obtain ⟨tail, rfl⟩ := List.head?_eq_some_iff.mp first
    exact quoted?_eq_none_iff.mp quotes

theorem Value.unspaced {gap : List Char} (valued : Value comparison gap text rest value) :
    Unspaced text := by
  cases valued with
  | quoted closed =>
    rintro c first
    cases first
    rfl
  | bare run _ _ =>
    obtain ⟨c, tail, rfl, kind⟩ := run.head
    exact unspaced_of_not_blank kind.1 tail

theorem Value.settled {gap : List Char} (valued : Value comparison gap text rest value)
    (spacing : Spacing gap) : Settled comparison (gap ++ text) := by
  intro extensible first
  cases gap with
  | cons c gap =>
    cases first
    simpa using spacing _ List.mem_cons_self
  | nil =>
    cases valued with
    | quoted closed => cases first
    | bare _ _ noEquals => exact noEquals first extensible rfl

theorem value?_complete {gap : List Char} (valued : Value comparison gap text rest value)
    (follows : Follows rest) : value? text = some (value, rest) := by
  cases valued with
  | quoted closed => rw [value?, quoted?_complete closed, Option.some_or]
  | bare run noQuote _ =>
    have noQuotes : quoted? text = none := by
      obtain ⟨c, tail, rfl, _⟩ := run.head
      by_cases quote : c = '\x22'
      · subst quote
        exact quoted?_eq_none_iff.mpr (noQuote rfl)
      · unfold quoted?
        split
        · next same => exact absurd (List.cons.inj same).1 quote
        · rfl
    rw [value?, noQuotes, Option.none_or]
    exact word?_complete isVisibleExcept_iff run (follows.stops isVisibleExcept_of_blank rfl)

theorem test?_sound {test : Comparison × String} (taken : test? text = some (test, rest)) :
    Test text rest test := by
  simp only [test?, bind, Option.bind_eq_some_iff, pure, Option.some.injEq] at taken
  obtain ⟨⟨comparison, middle⟩, compared, ⟨value, after⟩, valued, same⟩ := taken
  cases same
  obtain ⟨same, settled⟩ := comparison?_sound compared
  obtain ⟨gap, spacing, text_eq⟩ := exists_spacing text
  obtain ⟨gap', spacing', middle_eq⟩ := exists_spacing middle
  rw [text_eq, same, middle_eq]
  refine .intro spacing spacing' (value?_sound ?_ valued)
  rintro first extensible rfl
  rw [List.nil_append] at middle_eq
  exact settled extensible (middle_eq ▸ first)

/-- No key goes on into a test. -/
theorem Test.isKeyChar_eq_false {test : Comparison × String} (tested : Test text rest test) :
    ∀ c ∈ text.head?, isKeyChar c = false := by
  cases tested with
  | @intro gap _ _ _ comparison _ spacing _ _ =>
    rintro c first
    cases gap with
    | nil => cases comparison <;> cases first <;> rfl
    | cons d gap =>
      cases first
      exact isVisibleExcept_of_blank spacing.isBlank_head

theorem test?_complete {test : Comparison × String} (tested : Test text rest test)
    (follows : Follows rest) : test? text = some (test, rest) := by
  cases tested with
  | @intro gap gap' text _ comparison value spacing spacing' valued =>
    rw [test?, spacing.skipSpacing_append, (unspaced_comparison _ _).skipSpacing_eq,
      comparison?_complete (valued.settled spacing')]
    simp only [bind, Option.bind_some, spacing'.skipSpacing_append, valued.unspaced.skipSpacing_eq,
      value?_complete valued follows, pure]

end Test

section Hosts

variable {text rest : List Char} {name : String} {names : List String}

theorem host?_sound (taken : host? text = some (name, rest)) : Host text rest name := by
  rw [host?, Option.filter_eq_some_iff] at taken
  obtain ⟨taken, noKeyword⟩ := taken
  refine ⟨word?_sound isVisibleExcept_iff taken, fun keyword known spelled => ?_⟩
  simp [isKeyword_iff.mpr ⟨keyword, known, spelled⟩] at noKeyword

theorem host?_complete (host : Host text rest name)
    (stop : ∀ c ∈ rest.head?, isHostChar c = false) : host? text = some (name, rest) := by
  have read : word? isHostChar text = some (name, rest) :=
    word?_complete isVisibleExcept_iff host.1 stop
  rw [host?, read]
  refine Option.filter_some_pos ?_
  rw [Bool.not_eq_true', ← Bool.not_eq_true, isKeyword_iff]
  rintro ⟨keyword, known, spelled⟩
  exact host.2 keyword known spelled

theorem takeHosts_sound {fuel : Nat} (taken : takeHosts fuel text = (names, rest)) :
    names = [] ∧ rest = text ∨ ∃ tail, text = ',' :: tail ∧ Hosts tail rest names := by
  fun_induction takeHosts fuel text generalizing names rest with
  | case1 fuel tail name after read names' rest' more ih =>
    cases taken
    have host := host?_sound read
    rcases ih more with ⟨rfl, rfl⟩ | ⟨others, rfl, hosts⟩
    · exact .inr ⟨tail, rfl, .one host⟩
    · exact .inr ⟨tail, rfl, .more host hosts⟩
  | case2 => cases taken; exact .inl ⟨rfl, rfl⟩
  | case3 => cases taken; exact .inl ⟨rfl, rfl⟩

theorem takeHosts_of_no_comma {fuel : Nat} (noComma : ',' ∉ text.head?) :
    takeHosts fuel text = ([], text) := by
  unfold takeHosts
  split
  · simp at noComma
  · rfl

theorem Hosts.length_lt (hosts : Hosts text rest names) : rest.length < text.length := by
  have shorter {text rest : List Char} {name : String} (host : Host text rest name) :
      rest.length < text.length := by
    obtain ⟨split, nonempty, _⟩ := host.1
    have positive := List.length_pos_iff.mpr nonempty
    rw [split, List.length_append]
    omega
  induction hosts with
  | one host => exact shorter host
  | more host _ ih =>
    have := shorter host
    rw [List.length_cons] at this
    omega

theorem takeHosts_complete (hosts : Hosts text rest names) (follows : Follows rest) {fuel : Nat}
    (enough : text.length < fuel) : takeHosts fuel (',' :: text) = (names, rest) := by
  induction hosts generalizing fuel with
  | one host =>
    obtain ⟨fuel, rfl⟩ : ∃ less, fuel = less + 1 := ⟨fuel - 1, by omega⟩
    have read := host?_complete host (follows.stops isVisibleExcept_of_blank rfl)
    simp only [takeHosts, read, takeHosts_of_no_comma (follows.head_ne rfl (by decide))]
  | @more text others rest name names host tail ih =>
    obtain ⟨fuel, rfl⟩ : ∃ less, fuel = less + 1 := ⟨fuel - 1, by omega⟩
    have read := host?_complete host (by rintro c first; cases first; rfl)
    have shorter : others.length < text.length := (Hosts.one host).length_lt.trans' (by simp)
    simp only [takeHosts, read, ih follows (show others.length < fuel by omega)]

theorem readHosts_sound {atom : InventoryQuery.Atom} (read : readHosts text = .ok (atom, rest)) :
    ∃ names, atom = .hosts names ∧ Hosts text rest names := by
  rw [readHosts] at read
  split at read
  · cases read
  · next name after first =>
    cases read
    have host := host?_sound first
    rcases takeHosts_sound (Eq.refl (takeHosts after.length after)) with
      ⟨none, same⟩ | ⟨tail, same, hosts⟩
    · exact ⟨_, rfl, by rw [none, same]; exact .one host⟩
    · exact ⟨_, rfl, .more (same ▸ host) hosts⟩

theorem readHosts_complete (hosts : Hosts text rest names) (follows : Follows rest) :
    readHosts text = .ok (.hosts names, rest) := by
  cases hosts with
  | one host =>
    have read := host?_complete host (follows.stops isVisibleExcept_of_blank rfl)
    rw [readHosts, read]
    simp only [takeHosts_of_no_comma (follows.head_ne rfl (by decide))]
  | @more _ others _ name names host tail =>
    have read := host?_complete host (by rintro c first; cases first; rfl)
    have taken : takeHosts (',' :: others).length (',' :: others) = (names, rest) :=
      takeHosts_complete tail follows (by simp)
    rw [readHosts, read]
    simp only [taken]

end Hosts

section Atom

variable {text rest : List Char} {atom : InventoryQuery.Atom}

theorem readAtom_eq (text : List Char) :
    readAtom text =
      match category? text with
      | none => readHosts text
      | some (category, tail) =>
        match word? isKeyChar tail with
        | none => readHosts text
        | some (key, middle) =>
          match category, test? middle with
          | _, some (test, rest) => .ok (.condition category key (some test), rest)
          | .fact, none => .error (.refusal middle)
          | .resource, none => .ok (.condition .resource key none, middle) := by
  rw [readAtom]
  cases category? text with
  | none => rfl
  | some found =>
    obtain ⟨category, tail⟩ := found
    cases named : word? isKeyChar tail with
    | none => simp only [bind, Option.bind_some, named, Option.bind_none]
    | some word =>
      cases category <;> cases tested : test? word.2 <;>
        simp [bind, Option.bind_some, named, pure, tested]

theorem category?_sound {category : Category} (taken : category? text = some (category, rest)) :
    text = category.letter.toList ++ ':' :: rest := by
  unfold category? at taken
  split at taken <;> cases taken <;> rfl

theorem category?_complete (category : Category) (rest : List Char) :
    category? (category.letter.toList ++ ':' :: rest) = some (category, rest) := by
  cases category <;> rfl

theorem readAtom_sound (read : readAtom text = .ok (atom, rest)) :
    Atom KeyChar text rest atom := by
  have asHosts (read : readHosts text = .ok (atom, rest)) : Atom KeyChar text rest atom := by
    obtain ⟨names, rfl, hosts⟩ := readHosts_sound read
    exact .hosts hosts
  rw [readAtom_eq] at read
  split at read
  · exact asHosts read
  · next category tail found =>
    have same := category?_sound found
    split at read
    · exact asHosts read
    · next key middle taken =>
      have named := word?_sound isVisibleExcept_iff taken
      split at read
      · next compared =>
        cases read
        rw [same]
        exact .tested named (test?_sound compared)
      · cases read
      · cases read
        rw [same]
        exact .resource named

/-- A text of hosts does not begin with a category, since no colon stands in a host. -/
theorem Hosts.category?_eq_none {names : List String} (hosts : Hosts text rest names)
    (follows : Follows rest) : category? text = none := by
  have noColon {text rest : List Char} {name : String} (host : Host text rest name)
      (stop : ':' ∉ rest.head?) : category? text = none := by
    have second : text.tail.head? ≠ some ':' := by
      obtain ⟨split, nonempty, all⟩ := host.1
      obtain ⟨c, name', same⟩ := List.exists_cons_of_ne_nil nonempty
      rw [split, same]
      cases name' with
      | nil => simpa using stop
      | cons d name' =>
        rintro first
        cases first
        have kind := all ':' (by simp [same])
        simp [HostChar, VisibleExcept] at kind
    unfold category?
    split
    · exact absurd rfl second
    · exact absurd rfl second
    · rfl
  cases hosts with
  | one host => exact noColon host (follows.head_ne rfl (by decide))
  | more host _ => exact noColon host (by simp)

theorem readAtom_complete (derived : Atom KeyChar text rest atom) (follows : Follows rest) :
    readAtom text = .ok (atom, rest) := by
  rw [readAtom_eq]
  cases derived with
  | hosts hosts =>
    rw [hosts.category?_eq_none follows]
    exact readHosts_complete hosts follows
  | @resource text _ key named =>
    have read : word? isKeyChar text = some (key, rest) :=
      word?_complete isVisibleExcept_iff named (follows.stops isVisibleExcept_of_blank rfl)
    have noTest : test? rest = none := by
      rw [test?, follows.noComparison]
      rfl
    rw [show category? ('R' :: ':' :: text) = some (.resource, text) from rfl]
    simp only [read, noTest]
  | @tested text middle _ category key test named compared =>
    have read : word? isKeyChar _ = some (key, middle) :=
      word?_complete isVisibleExcept_iff named compared.isKeyChar_eq_false
    simp only [category?_complete, read, test?_complete compared follows]

end Atom

end InventoryQuery.Grammar
