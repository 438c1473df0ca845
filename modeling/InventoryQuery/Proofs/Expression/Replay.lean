import InventoryQuery.Proofs.Expression.Unread
import InventoryQuery.Proofs.Query.Replay
/-! # The calls of an expression

Building the query of an expression is making a list of calls on the query without any condition,
up to the first that is refused: a condition is one call, a connective is declared in front of the
item after it, and parentheses open and close a group.
-/

namespace InventoryQuery

section Replay

/-- What an operation leaves behind, or its refusal. -/
def Builder.outcome {α : Type} (operation : Builder α) (query : Query) : Except QueryError Query :=
  match operation query with
  | .ok _ next => .ok next
  | .error refusal _ => .error refusal

/-- An operation does the same as some calls. -/
def Builder.Performs {α : Type} (operation : Builder α) (calls : List Call) : Prop :=
  ∀ query, operation.outcome query = query.replay calls

theorem Query.replay_single (query : Query) (call : Call) :
    query.replay [call] = call.builder.outcome query := by
  rw [replay, perform, Builder.outcome]
  cases call.builder query <;> rfl

namespace Builder

variable {α β : Type} {operation : Builder α} {next : Builder β}

theorem outcome_bind (operation : Builder α) (next : Builder β) (query : Query) :
    (operation >>= fun _ => next).outcome query =
      (operation.outcome query).bind next.outcome := by
  simp only [outcome, bind, EStateM.bind]
  cases operation query <;> rfl

/-- What a call tells does not matter for what it leaves behind. -/
theorem performs_call {call : Call}
    (same : call.builder = operation >>= fun _ => pure none) : operation.Performs [call] := by
  intro query
  rw [Query.replay_single, same, outcome_bind]
  cases operation.outcome query <;> rfl

theorem Performs.bind {calls others : List Call} (first : operation.Performs calls)
    (second : next.Performs others) : (operation >>= fun _ => next).Performs (calls ++ others) := by
  intro query
  rw [outcome_bind, Query.replay_append, first query]
  cases query.replay calls with
  | error refusal => rfl
  | ok between => exact second between

theorem performs_openGroup : (discard openGroup).Performs [.openGroup] := by
  intro query
  rw [Query.replay_single]
  rfl

end Builder

end Replay

section Calls

/-- The call that adds the condition of an atom. -/
def Atom.call (negated : Bool) : Atom → Call
  | condition category key none => .addCondition category key none .equal negated
  | condition category key (some (comparison, value)) =>
    .addCondition category key (some value) comparison negated
  | .hosts names => .addHosts names negated

mutual

/-- The calls that add what an item stands for. -/
def Item.calls : Item → List Call
  | .atom negated condition => [condition.call negated]
  | .group first others =>
    .openGroup :: (Item.calls first ++ (Item.callsOthers others ++ [.closeGroup]))
termination_by structural item => item

/-- The calls for the items after the first one, each behind its connective. -/
def Item.callsOthers : List (Connective × Item) → List Call
  | [] => []
  | (connective, item) :: others =>
    .declare connective :: (Item.calls item ++ Item.callsOthers others)
termination_by structural others => others

end

/-- The calls that add what an expression stands for. -/
def Expression.calls (expression : Expression) : List Call :=
  expression.first.calls ++ Item.callsOthers expression.others

theorem Atom.performs_build (condition : Atom) (negated : Bool) :
    (condition.build negated).Performs [condition.call negated] := by
  match condition with
  | .condition _ _ none => exact Builder.performs_call rfl
  | .condition _ _ (some (_, _)) => exact Builder.performs_call rfl
  | .hosts _ => exact Builder.performs_call rfl

mutual

theorem Item.performs_build : (item : Item) → item.build.Performs item.calls
  | .atom negated condition => condition.performs_build negated
  | .group first others =>
    Builder.performs_openGroup.bind ((Item.performs_build first).bind
      ((Item.performs_buildOthers others).bind (Builder.performs_call rfl)))

theorem Item.performs_buildOthers : (others : List (Connective × Item)) →
    (Item.buildOthers others).Performs (Item.callsOthers others)
  | [] => fun _ => rfl
  | (connective, item) :: others =>
    have declared : (Builder.declare connective).Performs [.declare connective] :=
      Builder.performs_call rfl
    declared.bind ((Item.performs_build item).bind (Item.performs_buildOthers others))

end

theorem Expression.query_eq_replay (expression : Expression) :
    expression.query = Query.empty.replay expression.calls := by
  have performs := expression.first.performs_build.bind
    (Item.performs_buildOthers expression.others)
  rw [← Expression.build, ← Expression.calls] at performs
  rw [← performs Query.empty, Builder.outcome, Expression.query]
  cases expression.build Query.empty <;> rfl

end Calls

section Parse

open Grammar

/-- The refusals of a text that is no expression. -/
inductive QueryError.OfText : QueryError → Prop
  | blank : OfText .blank
  | syntaxError (position : Nat) (excerpt : String) : OfText (.syntaxError position excerpt)

theorem QueryError.OfCall.not_ofText {refusal : QueryError} (ofCall : refusal.OfCall) :
    ¬refusal.OfText := by
  intro ofText
  cases ofCall <;> cases ofText

theorem parse_refusal {text : String} {refusal : QueryError}
    (refused : Expression.parse text = .error refusal) : refusal.OfText := by
  rcases parse_error_cases refused with ⟨_, rfl⟩ | ⟨_, unread, _, rfl⟩
  · exact .blank
  · exact .syntaxError _ _

/-- The grammar derives a text as one expression, and the query of the text is what the calls of the
expression leave behind; or the grammar does not derive the text, and the text is refused. The two
cases exclude each other by the refusals. -/
theorem parse_cases (text : String) :
    (∃ expression, Accepts KeyChar text expression ∧
      (∀ other, Accepts KeyChar text other → other = expression) ∧
      Query.parse text = Query.empty.replay expression.calls ∧
      ∀ refusal, Query.parse text = .error refusal → ¬refusal.OfText) ∨
    ((∀ expression, ¬Accepts KeyChar text expression) ∧
      ∃ refusal, Query.parse text = .error refusal ∧ refusal.OfText) := by
  cases read : Expression.parse text with
  | ok expression =>
    have accepted := parse_sound read
    have replayed : Query.parse text = Query.empty.replay expression.calls := by
      rw [Query.parse, read]
      exact expression.query_eq_replay
    refine .inl ⟨expression, accepted, fun other accepted' => accepted'.unique accepted, replayed,
      fun refusal refused => ?_⟩
    exact (replay_empty_refusal (replayed.symm.trans refused)).not_ofText
  | error refusal =>
    refine .inr ⟨fun expression accepted => ?_, refusal, ?_, parse_refusal read⟩
    · rw [parse_complete accepted] at read
      cases read
    · rw [Query.parse, read]
      rfl

/-- A dot may stand in a key: a grammar without it does not have this text. -/
theorem parse_dotted_key :
    (∃ query, Query.parse "F:a.b=c" = .ok query) ∧
      ∀ expression, ¬Accepts (fun c => KeyChar c ∧ c ≠ '.') "F:a.b=c" expression := by
  have read : Expression.parse "F:a.b=c" =
      .ok ⟨.atom false (.condition .fact "a.b" (some (.equal, "c"))), []⟩ := by rfl
  refine ⟨⟨_, by rw [Query.parse, read]; rfl⟩, fun expression accepted => ?_⟩
  have same := parse_complete (accepted.mono fun c kind => kind.1)
  rw [read] at same
  cases same
  obtain ⟨_, _, _, _, _, _, head, _⟩ := accepted
  exact (head.key '.' (by decide)).2 rfl

end Parse

end InventoryQuery
