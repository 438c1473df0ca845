import InventoryQuery.Proofs.HostPattern.Selection
import InventoryQuery.Proofs.Wire.Rendering
/-! # Telling host conditions apart

A glob is found again in its regular expression, and a host specification in its condition. So the
text of a condition on some hosts shows which they are, in which order and how often each is named,
and whether the condition is negated.
-/

namespace InventoryQuery

namespace Term

theorem resolveEach_eq (hostKey : String) (terms : List Term) :
    resolveEach hostKey terms = terms.map (resolve hostKey) := by
  induction terms with
  | nil => rfl
  | cons term terms ih => rw [resolveEach, ih, List.map_cons]

theorem resolve_negateIf (hostKey : String) (negated : Bool) (term : Term) :
    (negateIf negated term).resolve hostKey = negateIf negated (term.resolve hostKey) := by
  cases negated with
  | false => rfl
  | true => exact resolve.eq_2 hostKey term

/-- A combination is no negation, so it shows whether it was negated. -/
theorem negateIf_combine_inj {negated negated' : Bool} {connective : Connective}
    {terms terms' : List Term} :
    negateIf negated (.combine connective terms) = negateIf negated' (.combine connective terms') ↔
      terms = terms' ∧ negated = negated' := by
  cases negated <;> cases negated' <;> simp [negateIf]

end Term

namespace HostPattern

open Regex (Piece)

theorem piece_injective : Function.Injective piece := by
  intro c other same
  by_cases star : c = '*' <;> by_cases star' : other = '*'
  · rw [star, star']
  · simp [piece, star, star'] at same
  · simp [piece, star, star'] at same
  · simpa [piece, star, star'] using same

/-- The regular expression for a glob has one reading, from which the glob is found again. -/
theorem regex_injective : Function.Injective regex := by
  intro glob other same
  have read := read_regex glob
  rw [same, read_regex other, Option.some.injEq] at read
  exact String.toList_injective (piece_injective.list_map read).symm

/-- A glob is compared otherwise than a name, so no name is taken for a glob. -/
theorem resolve_term_injective (hostKey : String) :
    Function.Injective fun host => (term host).resolve hostKey := by
  intro host other same
  by_cases glob : isGlob host = true <;> by_cases glob' : isGlob other = true
  · exact regex_injective (by simpa [term, glob, glob', Term.resolve] using same)
  · simp [term, glob, glob', Term.resolve] at same
  · simp [term, glob, glob', Term.resolve] at same
  · simpa [term, glob, glob', Term.resolve] using same

theorem render_term_eq_iff (hostKey : String) (host other : String) :
    (term host).render hostKey = (term other).render hostKey ↔ host = other :=
  Term.render_eq_render_iff.trans (resolve_term_injective hostKey).eq_iff

theorem resolve_anyOf? {hosts : List String} {negated : Bool} {formed : Term} (hostKey : String)
    (known : anyOf? hosts negated = some formed) :
    formed.resolve hostKey = Term.negateIf negated
      (.combine .or (hosts.map fun host => (term host).resolve hostKey)) := by
  obtain ⟨_, rfl⟩ := anyOf?_eq_some_iff.mp known
  rw [Term.resolve_negateIf, Term.resolve, Term.resolveEach_eq, List.map_map]
  rfl

/-- Conditions on some hosts have one text exactly if they name the same hosts in the same order and
both or none is negated. The regular expressions of two globs differ, and the texts for two host
specifications differ, whether they are globs or names. -/
theorem hosts_told_apart (hostKey : String) {hosts others : List String} (named : hosts ≠ [])
    (named' : others ≠ []) (negated negated' : Bool) :
    (∃ first second, anyOf? hosts negated = some first ∧ anyOf? others negated' = some second ∧
      (first.render hostKey = second.render hostKey ↔ hosts = others ∧ negated = negated')) ∧
      Function.Injective regex ∧
      ∀ host other, (term host).render hostKey = (term other).render hostKey ↔ host = other := by
  obtain ⟨first, formed⟩ := exists_anyOf? named negated
  obtain ⟨second, formed'⟩ := exists_anyOf? named' negated'
  refine ⟨⟨first, second, formed, formed', ?_⟩, regex_injective, render_term_eq_iff hostKey⟩
  rw [Term.render_eq_render_iff, resolve_anyOf? hostKey formed, resolve_anyOf? hostKey formed',
    Term.negateIf_combine_inj, (resolve_term_injective hostKey).list_map.eq_iff]

/-- A glob, and a name that is the regular expression for this glob. -/
theorem hosts_told_apart_pattern :
    ["a.*"] ≠ [] ∧ ["^a\\..*$"] ≠ [] ∧ regex "a.*" = "^a\\..*$" ∧
      ∃ first second, anyOf? ["a.*"] true = some first ∧ anyOf? ["^a\\..*$"] true = some second ∧
        first.render "name" ≠ second.render "name" := by
  have named : ["a.*"] ≠ [] := List.cons_ne_nil _ _
  have named' : ["^a\\..*$"] ≠ [] := List.cons_ne_nil _ _
  obtain ⟨⟨first, second, formed, formed', apart⟩, _⟩ :=
    hosts_told_apart "name" named named' true true
  refine ⟨named, named', by decide, first, second, formed, formed', fun same => ?_⟩
  exact absurd (apart.mp same).1 (by decide)

end HostPattern

end InventoryQuery
