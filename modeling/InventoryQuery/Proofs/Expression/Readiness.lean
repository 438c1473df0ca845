import InventoryQuery.Proofs.Expression.Preservation
import InventoryQuery.Proofs.Query.Subgroup
import InventoryQuery.Proofs.Query.Text
/-! # Accepted texts are ready to be sent

The calls of an accepted text close every group that they open, fill every group and declare a
connective before a second item. So the query of the text has a text of its own to send, and no
call is refused for how the calls follow each other, only for what the text says.
-/

namespace InventoryQuery

/-- The refusals of what an accepted text says. -/
inductive QueryError.OfContent : QueryError → Prop
  | categoryConflict (current requested : Category) :
      OfContent (.categoryConflict current requested)
  | badResourceKey (key : String) (reason : ResourceKey.Fault) :
      OfContent (.badResourceKey key reason)
  | connectiveConflict (declared requested : Connective) :
      OfContent (.connectiveConflict declared requested)

/-- The calls of an expression leave an outline behind, and in it no open group. -/
structure Expression.Builds (expression : Expression) (outline : Outline) : Prop where
  replayed : Outline.empty.replay expression.calls = .ok outline
  root : outline.around = []

namespace Outline

variable {outline : Outline} {refusal : QueryError}

theorem replay_append_eq_error {calls others : List Call}
    (refused : outline.replay (calls ++ others) = .error refusal) :
    outline.replay calls = .error refusal ∨
      ∃ between, outline.replay calls = .ok between ∧ between.replay others = .error refusal := by
  rw [replay_append] at refused
  cases done : outline.replay calls with
  | error refusal' =>
    rw [done] at refused
    exact .inl refused
  | ok between =>
    rw [done] at refused
    exact .inr ⟨between, rfl, refused⟩

theorem replay_cons_eq_error {call : Call} {calls : List Call}
    (refused : outline.replay (call :: calls) = .error refusal) :
    outline.step call = .error refusal ∨
      ∃ between, outline.step call = .ok between ∧ between.replay calls = .error refusal := by
  have apart : outline.replay ([call] ++ calls) = .error refusal := refused
  rw [← replay_single]
  exact replay_append_eq_error apart

theorem declare_ofContent {connective : Connective}
    (refused : outline.declare connective = .error refusal) : refusal.OfContent := by
  rw [declare] at refused
  split at refused
  · cases refused
  · split at refused
    · cases refused
    · cases refused
      exact .connectiveConflict _ _

theorem setCategory_ofContent {category : Category}
    (refused : outline.setCategory category = .error refusal) : refusal.OfContent := by
  rw [setCategory] at refused
  split at refused
  · cases refused
  · split at refused
    · cases refused
    · cases refused
      exact .categoryConflict _ _

/-- With a value for every fact only the key and the category can be wrong. -/
theorem addCondition_ofContent {category : Category} {key : String} {value : Option String}
    {comparison : Comparison} {negated : Bool} (valued : category = .fact → value ≠ none)
    (refused : outline.step (.addCondition category key value comparison negated) =
      .error refusal) : refusal.OfContent := by
  rw [step] at refused
  split at refused
  · next notFormed =>
    cases refused
    unfold Builder.condition at notFormed
    split at notFormed
    · split at notFormed
      · cases notFormed
      · exact absurd rfl (valued rfl)
    · split at notFormed
      · cases notFormed
      · cases notFormed
        exact .badResourceKey _ _
  · split at refused
    · next notSet =>
      cases refused
      exact setCategory_ofContent notSet
    · cases refused

end Outline

namespace Grammar

open Outline

/-- The calls that add what a phrase stands for. -/
def Phrase.calls : Phrase → List Call
  | .item single => single.calls
  | .others pairs => Item.callsOthers pairs

theorem Atom.ofContent {keyChar : Char → Prop} {text rest : List Char} {atom : InventoryQuery.Atom}
    (derived : Atom keyChar text rest atom) {negated : Bool} {outline : Outline}
    {refusal : QueryError} (refused : outline.step (atom.call negated) = .error refusal) :
    refusal.OfContent := by
  cases derived with
  | hosts listed =>
    rw [InventoryQuery.Atom.call, step] at refused
    split at refused <;> cases refused
  | resource named => exact addCondition_ofContent (by simp) refused
  | tested named compared => exact addCondition_ofContent (by simp) refused

/-- No call of a derived phrase is refused but for what the phrase says. -/
theorem Derives.ofContent {keyChar : Char → Prop} {phrase : Phrase} {text rest : List Char}
    (derived : Derives keyChar phrase text rest) {outline : Outline} {refusal : QueryError}
    (refused : outline.replay phrase.calls = .error refusal) : refusal.OfContent := by
  induction derived generalizing outline with
  | atom plain =>
    rw [Phrase.calls, Item.calls, replay_single] at refused
    exact plain.ofContent refused
  | negated spelled spacing apart plain =>
    rw [Phrase.calls, Item.calls, replay_single] at refused
    exact plain.ofContent refused
  | group spacing head tail spacing' ihHead ihTail =>
    rw [Phrase.calls, Item.calls] at refused
    rcases replay_cons_eq_error refused with notOpened | ⟨opened, stepped, refused⟩
    · cases notOpened
    cases stepped
    rcases replay_append_eq_error refused with inHead | ⟨between, first, refused⟩
    · exact ihHead inHead
    rcases replay_append_eq_error refused with inTail | ⟨after, others, notClosed⟩
    · exact ihTail inTail
    -- the frame of the opened group is still there, so it can be closed
    obtain ⟨tree, gains, _⟩ := head.replay first
    obtain ⟨trees, _, around, _⟩ := tail.replay others
    rw [gains.around] at around
    rw [replay_single, step, closeGroup, around] at notClosed
    cases notClosed
  | done => cases refused
  | next spacing apart spelled spacing' apart' head tail ihHead ihTail =>
    rw [Phrase.calls, Item.callsOthers] at refused
    rcases replay_cons_eq_error refused with notDeclared | ⟨between, _, refused⟩
    · exact declare_ofContent notDeclared
    rcases replay_append_eq_error refused with inHead | ⟨after, _, inTail⟩
    · exact ihHead inHead
    · exact ihTail inTail

variable {text : String} {expression : Expression}

theorem Accepts.ofContent (accepted : Accepts KeyChar text expression) {outline : Outline}
    {refusal : QueryError} (refused : outline.replay expression.calls = .error refusal) :
    refusal.OfContent := by
  obtain ⟨_, _, _, _, _, _, head, more, _⟩ := accepted
  rcases replay_append_eq_error refused with inFirst | ⟨between, _, inOthers⟩
  · exact head.ofContent inFirst
  · exact more.ofContent inOthers

/-- The calls of an accepted text close what they open. -/
theorem Accepts.builds (accepted : Accepts KeyChar text expression) {next : Outline}
    (replayed : Outline.empty.replay expression.calls = .ok next) : expression.Builds next := by
  obtain ⟨_, _, _, _, _, _, head, more, _⟩ := accepted
  obtain ⟨between, first, others⟩ := Outline.replay_append_eq_ok replayed
  obtain ⟨tree, gains, _⟩ := head.replay first
  obtain ⟨trees, _, around, _⟩ := more.replay others
  rw [gains.around] at around
  exact ⟨replayed, around⟩

theorem Accepts.parse_eq (accepted : Accepts KeyChar text expression) :
    Query.parse text = Query.empty.replay expression.calls := by
  rw [Query.parse, parse_complete accepted]
  exact expression.query_eq_replay

end Grammar

open Grammar

/-- A query that is read is described by the outline that the calls of its expression build. -/
theorem exists_builds_of_parse {text : String} {query : Query}
    (parsed : Query.parse text = .ok query) :
    ∃ expression outline, Accepts KeyChar text expression ∧ expression.Builds outline ∧
      outline.Describes query := by
  cases read : Expression.parse text with
  | error refusal =>
    rw [Query.parse, read] at parsed
    cases parsed
  | ok expression =>
    have accepted := parse_sound read
    rw [accepted.parse_eq] at parsed
    obtain ⟨next, replayed, describes⟩ := Outline.describes_empty.exists_of_replay parsed
    exact ⟨expression, next, accepted, accepted.builds replayed, describes⟩

/-- A query that is read is complete: the cursor is back on the root, every group is filled and the
query has a text for every host key. -/
theorem ready_of_parse {text : String} {query : Query} (parsed : Query.parse text = .ok query) :
    query.atRoot = true ∧ (∀ group ∈ query.groups, group.Filled) ∧
      ∀ hostKey, ∃ sent, query.render hostKey = .ok (some sent) := by
  obtain ⟨expression, outline, accepted, builds, describes⟩ := exists_builds_of_parse parsed
  have rendered (hostKey : String) : ∃ sent, outline.tree.render hostKey = .ok (some sent) := by
    obtain ⟨sent, _, rendered, _⟩ :=
      means_of_replay accepted builds.replayed hostKey fun _ _ _ => true
    exact ⟨sent, rendered⟩
  refine ⟨describes.atRoot_iff.mpr builds.root, ?_, ?_⟩
  · intro group present
    obtain ⟨id, met⟩ := describes.mem_groups_iff.mp present
    obtain ⟨sent, rendered⟩ := rendered ""
    exact outline.tree.filled_of_render rendered met
  · intro hostKey
    rw [describes.render_eq]
    exact rendered hostKey

/-- A text is refused for its syntax or for what it says. -/
theorem refusal_of_parse {text : String} {refusal : QueryError}
    (refused : Query.parse text = .error refusal) : refusal.OfText ∨ refusal.OfContent := by
  cases read : Expression.parse text with
  | error cause =>
    rw [Query.parse, read] at refused
    cases refused
    exact .inl (parse_refusal read)
  | ok expression =>
    have accepted := parse_sound read
    rw [accepted.parse_eq] at refused
    cases outlined : Outline.empty.replay expression.calls with
    | error cause =>
      rw [Outline.describes_empty.replay_of_error outlined] at refused
      cases refused
      exact .inr (accepted.ofContent outlined)
    | ok next =>
      obtain ⟨query, done, _⟩ := Outline.describes_empty.replay_of_ok outlined
      rw [done] at refused
      cases refused

end InventoryQuery
