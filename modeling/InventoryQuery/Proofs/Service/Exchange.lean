import InventoryQuery.Proofs.Expression.Readiness
import InventoryQuery.Service.Execution
/-! # What is exchanged with a transport

A recorded transport keeps what it was asked for and what it answered. An execution has at most one
exchange, and recording changes nothing else about it (`Target.execute_recorded`). A failure that no
exchange answered with is raised by the execution itself.
-/

namespace InventoryQuery.Service

/-- A request and the answer of the transport. -/
abbrev Exchange := Url × Except Failure Reply

/-- A transport that keeps its exchanges in order. -/
def Transport.recorded {σ : Type} (transport : Transport σ) : Transport (σ × List Exchange) :=
  fun url (state, exchanges) =>
    let (answer, after) := transport url state
    (answer, (after, exchanges ++ [(url, answer)]))

theorem entryHosts_refusal {hostKey : String} {index : Nat}
    {entries : List (List (String × Json))} {failure : Failure}
    (failed : entryHosts hostKey index entries = .error failure) :
    ∃ index', failure = .missingHostKey index' hostKey := by
  induction entries generalizing index with
  | nil => cases failed
  | cons entry entries ih =>
    rw [entryHosts] at failed
    split at failed
    · cases failed
      exact ⟨index, rfl⟩
    · cases more : entryHosts hostKey (index + 1) entries with
      | error failure' =>
        rw [more] at failed
        cases failed
        exact ih more
      | ok hosts =>
        rw [more] at failed
        cases failed

/-- A reply is refused for its status or its body, not for the query. -/
theorem readReply_ne_query (hostKey : String) (url : Url) (reply : Reply) (refusal : QueryError) :
    readReply hostKey url reply ≠ .error (.query refusal) := by
  intro failed
  rw [readReply] at failed
  split at failed
  · rw [extractHosts] at failed
    split at failed
    · cases failed
    · next entries _ =>
      cases found : entryHosts hostKey 0 entries with
      | error failure =>
        obtain ⟨_, rfl⟩ := entryHosts_refusal found
        rw [found] at failed
        cases failed
      | ok hosts =>
        rw [found] at failed
        cases failed
  · cases failed

namespace Target

variable {σ : Type} (target : Target) (transport : Transport σ)

/-- The exchange of an execution, if it gets as far as a request. -/
def exchanges (query : Query) (state : σ) : List Exchange :=
  match target.requestUrl query with
  | .error _ => []
  | .ok url => [(url, (transport url state).1)]

/-- Recording an execution changes neither its result nor the state it leaves. -/
theorem execute_recorded (query : Query) (state : σ) (past : List Exchange) :
    target.execute transport.recorded query (state, past) =
      ((target.execute transport query state).1,
        ((target.execute transport query state).2,
          past ++ target.exchanges transport query state)) := by
  rw [execute, execute, exchanges]
  cases target.requestUrl query with
  | error failure => simp
  | ok url =>
    simp only [Transport.recorded]
    rcases transport url state with ⟨failure | reply, after⟩
    · rfl
    · rfl

/-- Recording the execution of a text changes neither its result nor the state it leaves. -/
theorem executeText_recorded (text : String) (state : σ) :
    (target.executeText transport.recorded text (state, [])).1 =
        (target.executeText transport text state).1 ∧
      (target.executeText transport.recorded text (state, [])).2.1 =
        (target.executeText transport text state).2 := by
  rw [executeText, executeText]
  cases Query.parse text with
  | error refusal => exact ⟨rfl, rfl⟩
  | ok query =>
    dsimp only
    rw [execute_recorded]
    exact ⟨rfl, rfl⟩

/-- A text that is refused is refused before any request. -/
theorem executeText_of_refused {text : String} {refusal : QueryError}
    (refused : Query.parse text = .error refusal) (state : σ) :
    target.executeText transport text state = (.error (.query refusal), state) := by
  rw [executeText, refused]

/-- A query that has a text is only refused by an answer of the transport. -/
theorem answer_of_execute {query : Query} {refusal : QueryError}
    (ready : ∀ hostKey, ∃ sent, query.render hostKey = .ok (some sent)) {state : σ}
    (failed : (target.execute transport query state).1 = .error (.query refusal)) :
    ∃ exchange ∈ target.exchanges transport query state,
      exchange.2 = .error (.query refusal) := by
  obtain ⟨sent, rendered⟩ := ready (target.resolve query).2.hostKey
  have formed : target.requestUrl query = (do
      let url ← target.endpointUrl (target.resolve query).2
      return url.appendPair "query" sent) := by
    rw [requestUrl]
    simp only [rendered]
    rfl
  rw [execute] at failed
  rw [exchanges]
  cases requested : target.requestUrl query with
  | error failure =>
    rw [requested] at failed
    cases failed
    rw [formed, endpointUrl] at requested
    split at requested <;> cases requested
  | ok url =>
    rw [requested] at failed
    dsimp only at failed
    split at failed
    · next failure after answered =>
      cases failed
      exact ⟨_, List.mem_singleton_self _, congrArg Prod.fst answered⟩
    · next reply after answered => exact absurd failed (readReply_ne_query _ url reply refusal)

end Target

/-- Every accepted text can be executed: its query has the cursor on the root, only filled groups
and a text for every host key. So executing a text is refused for the query exactly if the text is
refused, unless the transport answers so itself, and nothing is requested then. No text is refused
for closing a group that is not open or for a fact without a value. -/
theorem accepted_text_executes (text : String) :
    (∀ query, Query.parse text = .ok query →
        query.atRoot = true ∧
          (∀ group ∈ query.groups, group.tokens ≠ [] ∧
            (2 ≤ group.tokens.length → group.connective ≠ none)) ∧
          ∀ hostKey, ∃ sent, query.render hostKey = .ok (some sent)) ∧
      (∀ (σ : Type) (target : Target) (transport : Transport σ) (state : σ) (refusal : QueryError),
        let recorded := target.executeText transport.recorded text (state, [])
        recorded.1 = (target.executeText transport text state).1 ∧
          ((recorded.1 = .error (.query refusal) ∧
              ∀ exchange ∈ recorded.2.2, exchange.2 ≠ .error (.query refusal)) ↔
            Query.parse text = .error refusal) ∧
          (Query.parse text = .error refusal → recorded.2.2 = [])) ∧
      Query.parse text ≠ .error .noOpenGroup ∧
      ∀ key, Query.parse text ≠ .error (.factWithoutValue key) := by
  refine ⟨fun query parsed => ready_of_parse parsed, ?_, ?_, ?_⟩
  · intro σ target transport state refusal recorded
    have refused {cause : QueryError} (parsed : Query.parse text = .error cause) :
        recorded = (.error (.query cause), (state, [])) :=
      target.executeText_of_refused transport.recorded parsed (state, [])
    refine ⟨(target.executeText_recorded transport text state).1, ⟨?_, ?_⟩, ?_⟩
    · rintro ⟨failed, own⟩
      cases parsed : Query.parse text with
      | error cause =>
        rw [refused parsed] at failed
        cases failed
        rfl
      | ok query =>
        -- the text of the query is there, so only the transport can have refused it
        have executed : recorded = target.execute transport.recorded query (state, []) := by
          show target.executeText transport.recorded text (state, []) = _
          rw [Target.executeText, parsed]
        rw [executed, target.execute_recorded] at failed own
        obtain ⟨exchange, present, answered⟩ :=
          target.answer_of_execute transport (ready_of_parse parsed).2.2 failed
        exact absurd answered (own exchange present)
    · intro parsed
      rw [refused parsed]
      exact ⟨rfl, by simp⟩
    · intro parsed
      rw [refused parsed]
  · intro refused
    rcases refusal_of_parse refused with ofText | ofContent
    · cases ofText
    · cases ofContent
  · intro key refused
    rcases refusal_of_parse refused with ofText | ofContent
    · cases ofText
    · cases ofContent

end InventoryQuery.Service
