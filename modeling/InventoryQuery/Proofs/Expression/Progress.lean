import InventoryQuery.Proofs.Expression.Misplacement
/-! # Progress

What a reader leaves is shorter than what it was given (`Progresses`). The readers of hosts and of
expressions are written down once more with checks (`checkedHosts`, `checkedWithin`): they halt where
a round of a repetition takes nothing, where the text of an inner expression is no proper suffix of
the text of its group, and where expressions nest too deep. They never do, and each of the inner
expressions is behind a parenthesis of its own.
-/

namespace InventoryQuery.Expression

open Text (skipSpacing)

/-- What is left of a text when something was taken from its front. -/
structure ProperSuffix (rest text : List Char) : Prop where
  suffix : rest <:+ text
  shorter : rest.length < text.length

instance (rest text : List Char) : Decidable (ProperSuffix rest text) :=
  decidable_of_iff (rest <:+ text ∧ rest.length < text.length)
    ⟨fun ⟨suffix, shorter⟩ => ⟨suffix, shorter⟩, fun proper => ⟨proper.suffix, proper.shorter⟩⟩

/-- A reader makes progress if it takes something whenever it succeeds. -/
def Progresses {α : Type} (reader : Reader α) : Prop :=
  ∀ {text : List Char} {value : α} {rest : List Char},
    reader text = .ok (value, rest) → ProperSuffix rest text

/-- Reads a condition of a category. -/
def categoryCondition : Reader Atom := fun text =>
  match category? text with
  | none => .error (.mismatch text)
  | some (category, tail) =>
    match word? isKeyChar tail with
    | none => .error (.mismatch tail)
    | some (key, middle) =>
      match category, test? middle with
      | _, some (test, rest) => .ok (.condition category key (some test), rest)
      | .fact, none => .error (.refusal middle)
      | .resource, none => .ok (.condition .resource key none, middle)

/-- Why a reading that checks its own progress ends without a value: it fails, a round of a
repetition took nothing, the text of an inner expression is no proper suffix of the text of its
group, or expressions nest too deep. -/
inductive Halt where
  | failed (failure : Failure)
  | idle (text : List Char)
  | unreduced (text : List Char)
  | tooDeep (text : List Char)
  deriving DecidableEq, Repr

/-- A reader that checks its own progress, and counts the inner expressions that are read on top of
those that were read before. -/
abbrev CheckedReader (α : Type) := List Char → Nat → Except Halt (α × List Char) × Nat

/-- Repeats a reader up to its first mismatch. After a round that takes nothing there would be no
end. -/
def repeatedly {α : Type} (round : CheckedReader α) : CheckedReader (List α) := fun text calls =>
  match round text calls with
  | (.error (.failed (.mismatch _)), calls) => (.ok ([], text), calls)
  | (.error halt, calls) => (.error halt, calls)
  | (.ok (value, rest), calls) =>
    if rest.length < text.length then
      let (outcome, calls) := repeatedly round rest calls
      (outcome.map fun (values, rest) => (value :: values, rest), calls)
    else (.error (.idle text), calls)
termination_by text => text.length

/-- Reads a comma, which must take something, and a host. -/
def nextHost : CheckedReader String := fun text calls =>
  match text with
  | ',' :: middle =>
    if middle.length < text.length then
      match host? middle with
      | none => (.error (.failed (.mismatch middle)), calls)
      | some found => (.ok found, calls)
    else (.error (.idle text), calls)
  | _ => (.error (.failed (.mismatch text)), calls)

/-- Reads a list of hosts with a check of every round. -/
def checkedHosts : CheckedReader Atom := fun text calls =>
  match host? text with
  | none => (.error (.failed (.mismatch text)), calls)
  | some (host, rest) =>
    let (outcome, calls) := repeatedly nextHost rest calls
    (outcome.map fun (hosts, rest) => (.hosts (host :: hosts), rest), calls)

/-- Ends a group behind its expression. Without a closing parenthesis its text is read as a
condition. -/
def closeGroup (text : List Char) (expression : Expression) (rest : List Char) :
    Except Failure (Item × List Char) :=
  match skipSpacing rest with
  | ')' :: rest => .ok (.group expression.first expression.others, rest)
  | _ => readCondition text

/-- Reads an item, given the reader of the expressions in parentheses. -/
def checkedItem (inner : CheckedReader Expression) : CheckedReader Item := fun text calls =>
  match text with
  | '(' :: tail =>
    if ProperSuffix (skipSpacing tail) text then
      match inner (skipSpacing tail) (calls + 1) with
      | (.error (.failed (.mismatch _)), calls) => ((readCondition text).mapError .failed, calls)
      | (.error halt, calls) => (.error halt, calls)
      | (.ok (expression, rest), calls) =>
        ((closeGroup text expression rest).mapError .failed, calls)
    else (.error (.unreduced (skipSpacing tail)), calls)
  | _ => ((readCondition text).mapError .failed, calls)

/-- Reads an item and the connective in front of it. -/
def nextItem (item : CheckedReader Item) : CheckedReader (Connective × Item) := fun text calls =>
  match connective? text with
  | none => (.error (.failed (.mismatch text)), calls)
  | some (connective, rest) =>
    let (outcome, calls) := item rest calls
    (outcome.map fun (next, rest) => ((connective, next), rest), calls)

/-- Reads an expression with a check of every round and of every inner expression. With the outermost
one no more than `limit` expressions may be under way at the same time. -/
def checkedWithin (limit : Nat) : CheckedReader Expression := fun text calls =>
  match limit with
  | 0 => (.error (.tooDeep text), calls)
  | limit + 1 =>
    match checkedItem (checkedWithin limit) text calls with
    | (.error halt, calls) => (.error halt, calls)
    | (.ok (first, rest), calls) =>
      let (outcome, calls) := repeatedly (nextItem (checkedItem (checkedWithin limit))) rest calls
      (outcome.map fun (others, rest) => (⟨first, others⟩, rest), calls)

theorem readAtom_eq_categoryCondition (text : List Char) :
    readAtom text =
      match categoryCondition text with
      | .error (.mismatch _) => readHosts text
      | outcome => outcome := by
  rw [Grammar.readAtom_eq, categoryCondition]
  cases category? text with
  | none => rfl
  | some found =>
    obtain ⟨category, tail⟩ := found
    cases named : word? isKeyChar tail with
    | none => simp only [named]
    | some word => cases category <;> cases tested : test? word.2 <;> simp only [named, tested]

namespace ProperSuffix

variable {text middle rest : List Char}

theorem of_suffix (proper : ProperSuffix middle text) (suffix : rest <:+ middle) :
    ProperSuffix rest text :=
  ⟨suffix.trans proper.suffix, suffix.length_le.trans_lt proper.shorter⟩

theorem cons (suffix : rest <:+ text) (c : Char) : ProperSuffix rest (c :: text) :=
  ⟨suffix.trans (List.suffix_cons c text), Nat.lt_succ_of_le suffix.length_le⟩

theorem append (proper : ProperSuffix rest text) (front : List Char) :
    ProperSuffix rest (front ++ text) := by
  refine ⟨List.suffix_append_of_suffix proper.suffix, proper.shorter.trans_le ?_⟩
  rw [List.length_append]
  exact Nat.le_add_left _ _

end ProperSuffix

end InventoryQuery.Expression

namespace InventoryQuery.Grammar

open Expression
open Text (skipSpacing)

section Derivations

variable {text rest : List Char}

theorem Word.properSuffix {kind : Char → Prop} {word : String} (run : Word kind text rest word) :
    ProperSuffix rest text := by
  obtain ⟨c, tail, same⟩ := List.exists_cons_of_ne_nil run.nonempty
  rw [run.split, same]
  exact .cons (List.suffix_append tail rest) c

theorem Atom.properSuffix {keyChar : Char → Prop} {atom : InventoryQuery.Atom}
    (derived : Atom keyChar text rest atom) : ProperSuffix rest text := by
  cases derived with
  | hosts listed => exact ⟨listed.suffix, listed.length_lt⟩
  | resource named => exact .append (.cons named.suffix ':') ['R']
  | tested named compared => exact .append (.cons (compared.suffix.trans named.suffix) ':') _

/-- An item is at least one character long. -/
theorem Derives.properSuffix {keyChar : Char → Prop} {item : Item}
    (derived : Derives keyChar (.item item) text rest) : ProperSuffix rest text := by
  cases derived with
  | atom plain => exact plain.properSuffix
  | negated spelled spacing apart plain => exact .append (.append plain.properSuffix _) _
  | group spacing head tail spacing' =>
    have inner := (List.suffix_append_of_suffix (List.suffix_cons _ _)).trans
      (tail.suffix.trans head.suffix)
    exact .cons (List.suffix_append_of_suffix inner) '('

end Derivations

section Readers

theorem progresses_readHosts : Progresses readHosts := by
  intro text atom rest read
  obtain ⟨names, rfl, listed⟩ := readHosts_sound read
  exact ⟨listed.suffix, listed.length_lt⟩

theorem progresses_readAtom : Progresses readAtom :=
  fun read => (readAtom_sound read).properSuffix

theorem progresses_categoryCondition : Progresses categoryCondition := by
  intro text atom rest read
  have same : readAtom text = .ok (atom, rest) := by
    rw [readAtom_eq_categoryCondition, read]
  exact progresses_readAtom same

theorem progresses_readItem {inner : Reader Expression}
    (innerSound : ∀ {text rest expression},
      inner text = .ok (expression, rest) → Reads text rest expression) :
    Progresses (readItem inner) :=
  fun read => (readItem_sound innerSound read).properSuffix

theorem progresses_read : Progresses read := by
  intro text expression rest found
  obtain ⟨middle, head, more⟩ := readWithin_sound found
  exact head.properSuffix.of_suffix more.suffix

end Readers

/-- The further hosts of a list are taken as without a check. -/
theorem repeatedly_nextHost {fuel : Nat} {text : List Char} (enough : text.length ≤ fuel)
    (calls : Nat) : repeatedly nextHost text calls = (.ok (takeHosts fuel text), calls) := by
  fun_induction takeHosts fuel text with
  | case1 fuel tail name after read names rest more ih =>
    have shorter := (host?_sound read).1.properSuffix.shorter
    rw [List.length_cons] at enough
    rw [repeatedly, nextHost, if_pos (by simp), read]
    simp only [List.length_cons, if_pos (show after.length < tail.length + 1 by omega),
      ih (show after.length ≤ fuel by omega), more]
    rfl
  | case2 fuel tail noHost =>
    rw [repeatedly, nextHost, if_pos (by simp), noHost]
  | case3 fuel text other =>
    have noRound : nextHost text calls = (.error (.failed (.mismatch text)), calls) := by
      rw [nextHost]
      rintro middle rfl
      obtain ⟨fuel, rfl⟩ := Nat.exists_eq_succ_of_ne_zero (Nat.ne_zero_of_lt enough)
      exact other fuel middle rfl rfl
    rw [repeatedly, noRound]

theorem checkedHosts_eq (text : List Char) (calls : Nat) :
    checkedHosts text calls = ((readHosts text).mapError .failed, calls) := by
  rw [checkedHosts, readHosts]
  cases host? text with
  | none => rfl
  | some found =>
    simp only [repeatedly_nextHost (Nat.le_refl _)]
    rfl

/-- What follows is the closing parenthesis of a group. -/
def Closes (rest : List Char) : Prop :=
  ∃ tail, skipSpacing rest = ')' :: tail

/-- A checked reading ends as a reader does, whatever it counts from. It counts no more than the
parentheses that are opened in the text, and if what it leaves is good for the group around it, no
more than those in front of this. -/
def EndsAs {α : Type} (reading : Nat → Except Halt (α × List Char) × Nat)
    (outcome : Except Failure (α × List Char)) (text : List Char) (good : List Char → Prop) : Prop :=
  ∃ calls, calls ≤ text.count '(' ∧
    (∀ value rest, outcome = .ok (value, rest) → good rest →
      calls + rest.count '(' ≤ text.count '(') ∧
    ∀ before, reading before = (outcome.mapError .failed, before + calls)

namespace EndsAs

variable {α β : Type} {reading : Nat → Except Halt (α × List Char) × Nat}
  {whole : Nat → Except Halt (β × List Char) × Nat} {outcome : Except Failure (α × List Char)}
  {text middle : List Char} {good : List Char → Prop} {calls : Nat}

theorem of_error {failure : Failure} (few : calls ≤ text.count '(')
    (ends : ∀ before, reading before = (.error (.failed failure), before + calls)) :
    EndsAs reading (.error failure) text good :=
  ⟨calls, few, (fun _ _ read => by cases read), ends⟩

/-- What is counted for a part of a text, and for what it leaves, is counted for the text. -/
theorem behind (ends : EndsAs reading outcome middle good)
    (taken : calls + middle.count '(' ≤ text.count '(') (f : α → β)
    (goesOn : ∀ before, whole before =
      ((reading (before + calls)).1.map fun found => (f found.1, found.2),
        (reading (before + calls)).2)) :
    EndsAs whole (outcome.map fun found => (f found.1, found.2)) text good := by
  obtain ⟨calls', few, closed, ends⟩ := ends
  refine ⟨calls + calls', by omega, ?_, fun before => ?_⟩
  · cases outcome with
    | error failure => rintro _ _ ⟨⟩
    | ok found =>
      rintro _ _ ⟨⟩ fine
      have := closed _ _ rfl fine
      omega
  · rw [goesOn, ends, Nat.add_assoc]
    cases outcome <;> rfl

end EndsAs

section Items

variable {checked : CheckedReader Expression} {inner : Reader Expression} {text tail : List Char}

theorem checkedItem_endsAs_condition (other : ∀ tail, text ≠ '(' :: tail) :
    EndsAs (checkedItem checked text) (readCondition text) text fun _ => True := by
  refine ⟨0, Nat.zero_le _, fun item rest read _ => ?_, fun before => ?_⟩
  · rw [Nat.zero_add]
    exact (readCondition_sound read).count_le
  · rw [checkedItem, Nat.add_zero]
    exact other

/-- At a parenthesis only a group can be read, and the group is closed. -/
theorem readItem_open_sound {item : Item} {rest : List Char}
    (read : readItem inner ('(' :: tail) = .ok (item, rest)) :
    ∃ expression middle, inner (skipSpacing tail) = .ok (expression, middle) ∧
      skipSpacing middle = ')' :: rest := by
  simp only [readItem, readCondition_open] at read
  split at read
  · cases read
  · cases read
  · next expression middle found =>
    split at read
    · next closing =>
      cases read
      exact ⟨expression, middle, found, closing⟩
    · cases read

/-- With the inner expression an item at a parenthesis is read as without a check. -/
theorem checkedItem_open {calls : Nat}
    (ends : ∀ before, checked (skipSpacing tail) before =
      ((inner (skipSpacing tail)).mapError .failed, before + calls)) (before : Nat) :
    checkedItem checked ('(' :: tail) before =
      ((readItem inner ('(' :: tail)).mapError .failed, before + (1 + calls)) := by
  have proper : ProperSuffix (skipSpacing tail) ('(' :: tail) :=
    .cons (Text.skipSpacing_suffix tail) '('
  rw [checkedItem, if_pos proper, ends, ← Nat.add_assoc]
  cases found : inner (skipSpacing tail) with
  | error failure =>
    cases failure with
    | mismatch unread => simp only [readItem, found, Except.mapError]
    | refusal | incomplete => simp only [readItem, found, Except.mapError]
  | ok read =>
    rw [readItem, found]
    rfl

/-- An expression in parentheses is counted for the parenthesis that opens it. -/
theorem checkedItem_endsAs_group
    (each : EndsAs (checked (skipSpacing tail)) (inner (skipSpacing tail)) (skipSpacing tail)
      Closes) :
    EndsAs (checkedItem checked ('(' :: tail)) (readItem inner ('(' :: tail)) ('(' :: tail)
      fun _ => True := by
  have within := (Text.skipSpacing_suffix tail).sublist.count_le '('
  obtain ⟨calls, few, closed, ends⟩ := each
  refine ⟨1 + calls, ?_, fun item rest read _ => ?_, checkedItem_open ends⟩
  · rw [List.count_cons_self]
    omega
  · obtain ⟨expression, middle, found, closing⟩ := readItem_open_sound read
    have inside := closed expression middle found ⟨rest, closing⟩
    have behind := (Text.skipSpacing_suffix middle).sublist.count_le '('
    rw [closing, List.count_cons_of_ne (by decide)] at behind
    rw [List.count_cons_self]
    omega

theorem checkedItem_endsAs
    (each : ∀ {inside}, inside.count '(' < text.count '(' →
      EndsAs (checked inside) (inner inside) inside Closes) :
    EndsAs (checkedItem checked text) (readItem inner text) text fun _ => True := by
  by_cases group : ∃ tail, text = '(' :: tail
  · obtain ⟨tail, rfl⟩ := group
    have within := (Text.skipSpacing_suffix tail).sublist.count_le '('
    refine checkedItem_endsAs_group (each ?_)
    rw [List.count_cons_self]
    exact Nat.lt_succ_of_le within
  · have other : ∀ tail, text ≠ '(' :: tail := fun tail same => group ⟨tail, same⟩
    have outcome : readItem inner text = readCondition text := by
      rw [readItem]
      exact other
    rw [outcome]
    exact checkedItem_endsAs_condition other

end Items

section Repetition

variable {checked : CheckedReader Item} {reader : Reader Item} {text rest : List Char}

/-- No connective stands in front of a closing parenthesis. -/
theorem not_closes_of_connective? {found : Connective × List Char}
    (joined : connective? text = some found) : ¬Closes text := by
  rintro ⟨tail, same⟩
  have ends : Ends text := by
    rintro c first
    rw [same] at first
    exact (Option.some.inj first).symm
  rw [ends.stops.noConnective] at joined
  cases joined

theorem repeatedly_nextItem_endsAs_nil (joined : connective? text = none) :
    EndsAs (repeatedly (nextItem checked) text) (.ok ([], text)) text Closes := by
  refine ⟨0, Nat.zero_le _, ?_, fun before => ?_⟩
  · rintro _ _ ⟨⟩ _
    rw [Nat.zero_add]
  · rw [repeatedly, nextItem, joined]
    rfl

/-- The items after the first one are read as without a check. The induction is on the bound that
stands for it: every round leaves less of the text. -/
theorem repeatedly_nextItem_endsAs {depth : Nat} (progresses : Progresses reader)
    (each : ∀ {text}, text.count '(' ≤ depth →
      EndsAs (checked text) (reader text) text fun _ => True)
    {fuel : Nat} (enough : text.length ≤ fuel) (shallow : text.count '(' ≤ depth) :
    EndsAs (repeatedly (nextItem checked) text) (readOthers reader fuel text) text Closes := by
  induction fuel generalizing text with
  | zero =>
    obtain rfl := List.eq_nil_of_length_eq_zero (Nat.le_zero.mp enough)
    exact repeatedly_nextItem_endsAs_nil rfl
  | succ fuel ih =>
    cases joined : connective? text with
    | none =>
      rw [readOthers, joined]
      exact repeatedly_nextItem_endsAs_nil joined
    | some found =>
      obtain ⟨connective, after⟩ := found
      have suffix := connective?_suffix joined
      have within := suffix.sublist.count_le '('
      obtain ⟨calls, few, taken, ends⟩ := each (within.trans shallow)
      cases found : reader after with
      | error failure =>
        rw [found] at ends
        cases failure with
        | refusal | incomplete =>
          simp only [readOthers, joined, found]
          refine .of_error (few.trans within) fun before => ?_
          rw [repeatedly, nextItem, joined]
          simp only [ends, Except.mapError, Except.map]
        | mismatch unread =>
          simp only [readOthers, joined, found]
          refine ⟨calls, few.trans within, ?_, fun before => ?_⟩
          · rintro _ _ ⟨⟩ closes
            exact absurd closes (not_closes_of_connective? joined)
          · rw [repeatedly, nextItem, joined]
            simp only [ends, Except.mapError, Except.map]
      | ok read =>
        obtain ⟨next, middle⟩ := read
        rw [found] at ends
        have shorter := (progresses found).shorter.trans_le suffix.length_le
        have inside := (taken next middle found trivial).trans within
        have more := ih (show middle.length ≤ fuel by omega) (show middle.count '(' ≤ depth by omega)
        have outcome : readOthers reader (fuel + 1) text = (readOthers reader fuel middle).map
            fun found => ((connective, next) :: found.1, found.2) := by
          simp only [readOthers, joined, found]
          cases readOthers reader fuel middle <;> rfl
        rw [outcome]
        refine more.behind inside _ fun before => ?_
        rw [repeatedly, nextItem, joined]
        simp only [ends, Except.mapError, Except.map, if_pos shorter]

end Repetition

/-- An expression is read as without a check if the limit is more than the parentheses that are
opened in the text. -/
theorem checkedWithin_endsAs {limit fuel : Nat} {text : List Char}
    (below : text.count '(' < limit) (enough : text.count '(' < fuel) :
    EndsAs (checkedWithin limit text) (readWithin fuel text) text Closes := by
  induction limit generalizing text fuel with
  | zero => exact absurd below (Nat.not_lt_zero _)
  | succ limit ih =>
    obtain ⟨fuel, rfl⟩ := Nat.exists_eq_succ_of_ne_zero (Nat.ne_zero_of_lt enough)
    have each {text : List Char} (shallow : text.count '(' ≤ min limit fuel) :
        EndsAs (checkedItem (checkedWithin limit) text) (readItem (readWithin fuel) text) text
          fun _ => True :=
      checkedItem_endsAs fun fewer => ih (by omega) (by omega)
    have shallow : text.count '(' ≤ min limit fuel := by omega
    obtain ⟨calls, few, taken, ends⟩ := each shallow
    cases found : readItem (readWithin fuel) text with
    | error failure =>
      rw [found] at ends
      have outcome : readWithin (fuel + 1) text = .error failure := by
        simp only [readWithin, found, bind, Except.bind]
      rw [outcome]
      refine .of_error few fun before => ?_
      rw [checkedWithin, ends]
      rfl
    | ok first =>
      obtain ⟨first, middle⟩ := first
      rw [found] at ends
      have inside := taken first middle found trivial
      have more : EndsAs (repeatedly (nextItem (checkedItem (checkedWithin limit))) middle)
          (readOthers (readItem (readWithin fuel)) middle.length middle) middle Closes :=
        repeatedly_nextItem_endsAs (progresses_readItem readWithin_sound) each (Nat.le_refl _)
          (by omega)
      have outcome : readWithin (fuel + 1) text =
          (readOthers (readItem (readWithin fuel)) middle.length middle).map
            fun found => (⟨first, found.1⟩, found.2) := by
        simp only [readWithin, found, bind, Except.bind]
        cases readOthers (readItem (readWithin fuel)) middle.length middle <;> rfl
      rw [outcome]
      refine more.behind inside (Expression.mk first) fun before => ?_
      rw [checkedWithin, ends]
      rfl

/-- Whatever the text is, what a reader leaves when it succeeds is a proper suffix of what it was
given. The readers that check their progress end as the others do: every round takes something, and
an inner expression is read from a proper suffix of the text of its group. No more inner expressions
are read than parentheses are opened, and so no more are under way at the same time. -/
theorem readers_progress :
    Progresses read ∧ Progresses (readItem read) ∧ Progresses readAtom ∧
      Progresses categoryCondition ∧ Progresses readHosts ∧
      (∀ text name rest, host? text = some (name, rest) → ProperSuffix rest text) ∧
      (∀ text, checkedHosts text 0 = ((readHosts text).mapError .failed, 0)) ∧
      ∀ (text : List Char) (limit : Nat), text.count '(' ≤ limit →
        (∃ calls ≤ text.count '(', checkedItem (checkedWithin limit) text 0 =
          ((readItem read text).mapError .failed, calls)) ∧
        ∃ calls ≤ text.count '(', checkedWithin (limit + 1) text 0 =
          ((read text).mapError .failed, calls) := by
  refine ⟨progresses_read, progresses_readItem readWithin_sound, progresses_readAtom,
    progresses_categoryCondition, progresses_readHosts, ?_, fun text => checkedHosts_eq text 0,
    fun text limit enough => ⟨?_, ?_⟩⟩
  · intro text name rest taken
    exact (host?_sound taken).1.properSuffix
  · obtain ⟨calls, few, _, ends⟩ :
        EndsAs (checkedItem (checkedWithin limit) text) (readItem read text) text fun _ => True :=
      checkedItem_endsAs fun fewer =>
        checkedWithin_endsAs (fewer.trans_le enough) (Nat.lt_succ_self _)
    exact ⟨calls, few, (ends 0).trans (by rw [Nat.zero_add])⟩
  · obtain ⟨calls, few, _, ends⟩ :
        EndsAs (checkedWithin (limit + 1) text) (read text) text Closes :=
      checkedWithin_endsAs (Nat.lt_succ_of_le enough) (Nat.lt_succ_self _)
    exact ⟨calls, few, (ends 0).trans (by rw [Nat.zero_add])⟩

end InventoryQuery.Grammar
