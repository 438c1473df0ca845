import InventoryQuery.Proofs.Service.Addressing
import InventoryQuery.Proofs.Service.Exchange
/-! # Executions one after the other

`Target.Outcome` tells what one execution may do, one rule for each way in which it ends; the order
in which things can go wrong is in what the rules ask for. An execution that gets as far as a URL
exchanges one request for one answer, any other execution exchanges nothing. A session is a list of
such outcomes, and its requests are those that can be formed, whatever is answered to them.
-/

namespace InventoryQuery.Service

/-- The query that a request is for, or the refusal of its text. -/
def Request.read : Request → Except QueryError Query
  | .text written => Query.parse written
  | .query built => .ok built

theorem Reply.isSuccess_iff (reply : Reply) :
    reply.isSuccess = true ↔ 200 ≤ reply.status ∧ reply.status ≤ 299 := by
  rw [Reply.isSuccess, Bool.and_eq_true, decide_eq_true_eq, decide_eq_true_eq]
  omega

/-- A reply is read only if its status tells of success. -/
theorem readReply_cases (hostKey : String) (url : Url) (reply : Reply) :
    ((reply.status < 200 ∨ 299 < reply.status) ∧
        readReply hostKey url reply = .error (.status reply.status url.text)) ∨
      (200 ≤ reply.status ∧ reply.status ≤ 299) ∧
        readReply hostKey url reply = extractHosts hostKey reply.body := by
  rw [readReply]
  by_cases success : reply.isSuccess = true
  · exact .inr ⟨reply.isSuccess_iff.mp success, if_pos success⟩
  · have outside := mt reply.isSuccess_iff.mpr success
    exact .inl ⟨by omega, if_neg success⟩

namespace Target

variable {σ : Type} {target : Target} {transport : Transport σ}

/-- The result of executing a request, and what is exchanged for it. -/
inductive Outcome (target : Target) (request : Request) :
    Except Failure HostSet → List Exchange → Prop
  | unread {refusal : QueryError} (refused : request.read = .error refusal) :
      Outcome target request (.error (.query refusal)) []
  | unrendered {query : Query} {refusal : QueryError} (read : request.read = .ok query)
      (refused : query.render (target.resolve query).2.hostKey = .error refusal) :
      Outcome target request (.error (.query refusal)) []
  | unaddressed {query : Query} {rendered : Option String} {fault : Url.Fault}
      (read : request.read = .ok query)
      (found : query.render (target.resolve query).2.hostKey = .ok rendered)
      (malformed : Url.parse (target.endpointText query) = .error fault) :
      Outcome target request (.error (.invalidUrl (target.endpointText query) fault.message)) []
  | unanswered {query : Query} {url : Url} {failure : Failure} (read : request.read = .ok query)
      (formed : target.requestUrl query = .ok url) :
      Outcome target request (.error failure) [(url, .error failure)]
  | unsuccessful {query : Query} {url : Url} {reply : Reply} (read : request.read = .ok query)
      (formed : target.requestUrl query = .ok url)
      (outside : reply.status < 200 ∨ 299 < reply.status) :
      Outcome target request (.error (.status reply.status url.text)) [(url, .ok reply)]
  | answered {query : Query} {url : Url} {reply : Reply} (read : request.read = .ok query)
      (formed : target.requestUrl query = .ok url)
      (inside : 200 ≤ reply.status ∧ reply.status ≤ 299) :
      Outcome target request (extractHosts (target.resolve query).2.hostKey reply.body)
        [(url, .ok reply)]

/-- The results of executing some requests in order, and all that is exchanged for them. -/
inductive Session (target : Target) :
    List Request → List (Except Failure HostSet) → List Exchange → Prop
  | done : Session target [] [] []
  | next {request : Request} {requests : List Request} {result : Except Failure HostSet}
      {results : List (Except Failure HostSet)} {exchanged exchanges : List Exchange}
      (outcome : target.Outcome request result exchanged)
      (session : Session target requests results exchanges) :
      Session target (request :: requests) (result :: results) (exchanged ++ exchanges)

/-- The URL that is asked for, if a request gets that far. -/
def requested? (target : Target) (request : Request) : Option Url :=
  request.read.toOption.bind fun query => (target.requestUrl query).toOption

theorem Outcome.requested {request : Request} {result : Except Failure HostSet}
    {exchanged : List Exchange} (outcome : target.Outcome request result exchanged) :
    exchanged.map (·.1) = (target.requested? request).toList := by
  rw [requested?]
  cases outcome with
  | unread refused => rw [refused]; rfl
  | unrendered read refused =>
    rw [read, Except.toOption, Option.bind_some, requestUrl_of_refused refused]
    rfl
  | unaddressed read found malformed =>
    rw [read, Except.toOption, Option.bind_some, requestUrl_of_malformed found malformed]
    rfl
  | unanswered read formed | unsuccessful read formed | answered read formed =>
    rw [read, Except.toOption, Option.bind_some, formed]
    rfl

theorem Session.requested {requests : List Request} {results : List (Except Failure HostSet)}
    {exchanges : List Exchange} (session : target.Session requests results exchanges) :
    exchanges.map (·.1) = requests.filterMap target.requested? := by
  induction session with
  | done => rfl
  | @next request _ _ _ _ _ outcome _ ih =>
    rw [List.map_append, outcome.requested, ih, List.filterMap_cons]
    cases target.requested? request <;> rfl

/-- The execution of a query comes to one of the outcomes. -/
theorem execute_outcome (transport : Transport σ) {request : Request} {query : Query}
    (read : request.read = .ok query) (state : σ) :
    target.Outcome request (target.execute transport query state).1
      (target.exchanges transport query state) := by
  rw [execute, exchanges]
  -- the text of the query comes first, then the URL, and only then the transport
  cases rendered : query.render (target.resolve query).2.hostKey with
  | error refusal =>
    rw [requestUrl_of_refused rendered]
    exact .unrendered read rendered
  | ok sent =>
    cases parsed : Url.parse (target.endpointText query) with
    | error fault =>
      rw [requestUrl_of_malformed rendered parsed]
      exact .unaddressed read rendered parsed
    | ok endpoint =>
      have formed := requestUrl_of_parsed rendered parsed
      rw [formed]
      dsimp only
      rcases transport (endpoint.appendPair "query" (sent.getD "")) state with
        ⟨failure | reply, after⟩
      · exact .unanswered read formed
      · rcases readReply_cases (target.resolve query).2.hostKey
          (endpoint.appendPair "query" (sent.getD "")) reply with
          ⟨outside, result⟩ | ⟨inside, result⟩
        · simp only [result]
          exact .unsuccessful read formed outside
        · simp only [result]
          exact .answered read formed inside

/-- A recorded execution comes to one of the outcomes, and otherwise does what it does without the
record. -/
theorem perform_recorded (transport : Transport σ) (request : Request) (state : σ)
    (past : List Exchange) :
    ∃ exchanged, target.Outcome request (target.perform transport request state).1 exchanged ∧
      target.perform transport.recorded request (state, past) =
        ((target.perform transport request state).1,
          ((target.perform transport request state).2, past ++ exchanged)) := by
  cases request with
  | text text =>
    rw [perform, perform, executeText, executeText]
    cases parsed : Query.parse text with
    | error refusal => exact ⟨[], .unread parsed, by simp⟩
    | ok query =>
      have read : (Request.text text).read = .ok query := parsed
      exact ⟨_, execute_outcome transport read state,
        target.execute_recorded transport query state past⟩
  | query query =>
    have read : (Request.query query).read = .ok query := rfl
    exact ⟨_, execute_outcome transport read state,
      target.execute_recorded transport query state past⟩

end Target

end InventoryQuery.Service
