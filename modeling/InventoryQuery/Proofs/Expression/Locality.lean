import InventoryQuery.Proofs.Expression.Readiness
import InventoryQuery.Proofs.Query.Chronology
/-! # Texts in longer texts

What the grammar derives for a stretch of text it derives for that stretch in any longer text, with
one exception: a value that begins with a quote is a word only because no other quote follows it
(`Value.bare`). So a derivation extends to a longer text unless it has such a value and the text
added to it has a quote.
-/

namespace InventoryQuery

section Values

mutual

/-- The values that a condition compares with. -/
def Term.values : Term → List String
  | .compare _ _ value => [value]
  | .not term => Term.values term
  | .combine _ terms => Term.valuesEach terms

/-- The values that some conditions compare with. -/
def Term.valuesEach : List Term → List String
  | [] => []
  | term :: terms => Term.values term ++ Term.valuesEach terms

end

/-- The values of the conditions in a query. -/
def Query.values (query : Query) : List String :=
  query.groups.toList.flatMap fun group => group.tokens.flatMap fun
    | .term term => term.values
    | .group _ => []

/-- No value in a query begins with a quote. Neither a key nor a host can hold one, so this is about
the values that are given for a fact or a resource. -/
def Query.Unquoted (query : Query) : Prop :=
  ∀ value ∈ query.values, value.toList.head? ≠ some '\x22'

instance (query : Query) : Decidable query.Unquoted :=
  inferInstanceAs (Decidable (∀ value ∈ query.values, value.toList.head? ≠ some '\x22'))

theorem Query.mem_values_iff {query : Query} {value : String} :
    value ∈ query.values ↔
      ∃ term, (∃ group ∈ query.groups, .term term ∈ group.tokens) ∧ value ∈ term.values := by
  simp only [values, List.mem_flatMap, Array.mem_toList_iff]
  constructor
  · rintro ⟨group, present, token, held, valued⟩
    cases token with
    | term term => exact ⟨term, ⟨group, present, held⟩, valued⟩
    | group id => cases valued
  · rintro ⟨term, ⟨group, present, held⟩, valued⟩
    exact ⟨group, present, .term term, held, valued⟩

theorem Term.values_negateIf (negated : Bool) (term : Term) :
    (Term.negateIf negated term).values = term.values := by
  cases negated <;> rfl

/-- The value that a call gives. -/
def Call.value? : Call → Option String
  | addCondition _ _ value _ _ => value
  | _ => none

/-- A condition compares with the value that is given for it. -/
theorem Builder.mem_values_of_condition {category : Category} {key value : String}
    {comparison : Comparison} {term : Term}
    (formed : condition category key (some value) comparison = .ok term) : value ∈ term.values := by
  cases category with
  | fact =>
    cases formed
    exact List.mem_singleton_self value
  | resource =>
    rw [condition] at formed
    split at formed
    · next parsed _ =>
      cases formed
      cases parsed <;> simp [ResourceKey.toTerm, Term.values, Term.valuesEach]
    · cases formed

namespace Outline

variable {outline next : Outline} {calls : List Call}

theorem terms_prefix_of_replay (replayed : outline.replay calls = .ok next) :
    outline.tree.terms <+: next.tree.terms := by
  induction calls generalizing outline with
  | nil =>
    cases replayed
    exact List.prefix_rfl
  | cons call calls ih =>
    obtain ⟨between, stepped, more⟩ := replay_cons_eq_ok replayed
    have first : outline.tree.terms <+: between.tree.terms :=
      terms_of_step stepped ▸ List.prefix_append _ _
    exact first.trans (ih more)

/-- The value of a call is a value of the condition that the call adds. -/
theorem mem_values_of_step {call : Call} {value : String} (stepped : outline.step call = .ok next)
    (given : value ∈ call.value?) : ∃ term ∈ next.tree.terms, value ∈ term.values := by
  have added := terms_of_step stepped
  cases step_eq_ok_iff.mp stepped with
  | @condition category key _ comparison negated term formed compatible =>
    obtain rfl : _ = some value := given
    refine ⟨Term.negateIf negated term, ?_, ?_⟩
    · rw [added, Call.term?_eq_some_iff.mpr (.condition negated formed)]
      exact List.mem_append_right _ (List.mem_singleton_self _)
    · rw [Term.values_negateIf]
      exact Builder.mem_values_of_condition formed
  | category | noHosts | hosts | opened | closed | declared => cases given

theorem mem_values_of_replay {value : String} (replayed : outline.replay calls = .ok next)
    (given : ∃ call ∈ calls, value ∈ call.value?) :
    ∃ term ∈ next.tree.terms, value ∈ term.values := by
  induction calls generalizing outline with
  | nil =>
    obtain ⟨call, absent, _⟩ := given
    cases absent
  | cons call calls ih =>
    obtain ⟨between, stepped, more⟩ := replay_cons_eq_ok replayed
    obtain ⟨call', present, given⟩ := given
    rcases List.mem_cons.mp present with rfl | later
    · obtain ⟨term, added, valued⟩ := mem_values_of_step stepped given
      exact ⟨term, (terms_prefix_of_replay more).subset added, valued⟩
    · exact ih more ⟨call', later, given⟩

/-- The values that calls give are values of the query that they build. -/
theorem Describes.mem_values_of_replay {query : Query} {value : String}
    (describes : next.Describes query) (replayed : outline.replay calls = .ok next)
    (given : ∃ call ∈ calls, value ∈ call.value?) : value ∈ query.values := by
  obtain ⟨term, added, valued⟩ := Outline.mem_values_of_replay replayed given
  exact Query.mem_values_iff.mpr ⟨term, describes.mem_terms_iff.mp added, valued⟩

end Outline

end Values

/-- A text can follow the text of a call: after a value that begins with a quote no quote may
follow. -/
def Call.Admits (more : List Char) (call : Call) : Prop :=
  ∀ value ∈ call.value?, value.toList.head? = some '\x22' → '\x22' ∉ more

theorem Call.admits_of_not_mem {more : List Char} (absent : '\x22' ∉ more) (call : Call) :
    call.Admits more :=
  fun _ _ _ => absent

namespace Grammar

section Extension

variable {keyChar : Char → Prop} {text rest more : List Char}

theorem Word.extend {kind : Char → Prop} {word : String} (run : Word kind text rest word)
    (more : List Char) : Word kind (text ++ more) (rest ++ more) word where
  split := by rw [run.split, List.append_assoc]
  nonempty := run.nonempty
  all := run.all

theorem Host.extend {name : String} (host : Host text rest name) (more : List Char) :
    Host (text ++ more) (rest ++ more) name :=
  ⟨host.1.extend more, host.2⟩

theorem Hosts.extend {names : List String} (listed : Hosts text rest names) (more : List Char) :
    Hosts (text ++ more) (rest ++ more) names := by
  induction listed with
  | one host => exact .one (host.extend more)
  | more host _ ih => exact .more (host.extend more) ih

/-- A value extends if no quote is added behind one that begins with a quote. -/
theorem Value.extend {comparison : Comparison} {gap : List Char} {value : String}
    (valued : Value comparison gap text rest value)
    (admits : value.toList.head? = some '\x22' → '\x22' ∉ more) :
    Value comparison gap (text ++ more) (rest ++ more) value := by
  cases valued with
  | @quoted body _ closed =>
    rw [List.append_assoc, List.cons_append]
    exact .quoted closed
  | bare run noQuote noEquals =>
    obtain ⟨c, word, spelled⟩ := List.exists_cons_of_ne_nil run.nonempty
    have begins : text = c :: (word ++ rest) := by
      rw [run.split, spelled]
      rfl
    subst begins
    refine .bare (run.extend more) ?_ noEquals
    intro first
    have inside : '\x22' ∉ word ++ rest := noQuote first
    have behind : '\x22' ∉ more := admits (by rw [spelled]; exact first)
    intro quote
    rcases List.mem_append.mp quote with quote | quote
    · exact inside quote
    · exact behind quote

theorem Test.extend {comparison : Comparison} {value : String}
    (tested : Test text rest (comparison, value))
    (admits : value.toList.head? = some '\x22' → '\x22' ∉ more) :
    Test (text ++ more) (rest ++ more) (comparison, value) := by
  cases tested with
  | intro spacing spacing' valued =>
    simp only [List.append_assoc]
    exact .intro spacing spacing' (valued.extend admits)

theorem Atom.extend {atom : InventoryQuery.Atom} {negated : Bool}
    (derived : Atom keyChar text rest atom) (admits : (atom.call negated).Admits more) :
    Atom keyChar (text ++ more) (rest ++ more) atom := by
  cases derived with
  | hosts listed => exact .hosts (listed.extend more)
  | resource named => exact .resource (named.extend more)
  | @tested text _ _ category key test named compared =>
    obtain ⟨comparison, value⟩ := test
    rw [List.append_assoc, List.cons_append]
    exact .tested (named.extend more) (compared.extend (admits value rfl))

/-- A derivation extends to a longer text if every call of its phrase admits what is added. -/
theorem Derives.extend {phrase : Phrase} (derived : Derives keyChar phrase text rest)
    (admits : ∀ call ∈ phrase.calls, call.Admits more) :
    Derives keyChar phrase (text ++ more) (rest ++ more) := by
  induction derived with
  | atom plain =>
    exact .atom (plain.extend (admits _ (List.mem_singleton_self _)))
  | negated spelled spacing apart plain =>
    simp only [List.append_assoc]
    exact .negated spelled spacing apart (plain.extend (admits _ (List.mem_singleton_self _)))
  | @group gap gap' text middle rest first others spacing head tail spacing' ihHead ihTail =>
    have headAdmits : ∀ call ∈ first.calls, call.Admits more :=
      fun call present => admits call (by simp [Phrase.calls, Item.calls, present])
    have tailAdmits : ∀ call ∈ Item.callsOthers others, call.Admits more :=
      fun call present => admits call (by simp [Phrase.calls, Item.calls, present])
    have tail' := ihTail tailAdmits
    rw [List.append_assoc, List.cons_append] at tail'
    rw [List.cons_append, List.append_assoc]
    exact .group spacing (ihHead headAdmits) tail' spacing'
  | done => exact .done
  | @next gap word gap' text middle rest connective item others spacing apart spelled spacing'
      apart' head tail ihHead ihTail =>
    have headAdmits : ∀ call ∈ item.calls, call.Admits more :=
      fun call present => admits call (by simp [Phrase.calls, Item.callsOthers, present])
    have tailAdmits : ∀ call ∈ Item.callsOthers others, call.Admits more :=
      fun call present => admits call (by simp [Phrase.calls, Item.callsOthers, present])
    simp only [List.append_assoc]
    exact .next spacing apart spelled spacing' apart' (ihHead headAdmits) (ihTail tailAdmits)

end Extension

end Grammar

end InventoryQuery
