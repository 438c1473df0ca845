import InventoryQuery.Proofs.Query.Outcome
import InventoryQuery.Proofs.Url.Form
import InventoryQuery.Service.Execution
/-! # Where a request goes

A request has a URL only if its query has an outcome and its endpoint has a URL, in this order. The
URL is that of the endpoint with one more pair, from which the text of the query is read back
(`Target.requestUrl_of_parsed`, `Url.decode_appendPair`).
-/

namespace InventoryQuery

theorem Query.render_ne_empty {query : Query} {hostKey text : String}
    (rendered : query.render hostKey = .ok (some text)) : text ≠ "" := by
  rw [render, renderGroup] at rendered
  cases found : query.treeAt 0 with
  | error refusal =>
    rw [found] at rendered
    cases rendered
  | ok tree =>
    rw [found] at rendered
    exact tree.render_ne_empty hostKey rendered

namespace Service

namespace Target

variable {target : Target} {query : Query}

/-- The text that is read as the URL of the endpoint for a query. -/
def endpointText (target : Target) (query : Query) : String :=
  joinPath target.baseUrl (target.resolve query).2.path

theorem requestUrl_of_refused {refusal : QueryError}
    (refused : query.render (target.resolve query).2.hostKey = .error refusal) :
    target.requestUrl query = .error (.query refusal) := by
  rw [requestUrl]
  simp only [refused]

theorem requestUrl_of_malformed {rendered : Option String} {fault : Url.Fault}
    (found : query.render (target.resolve query).2.hostKey = .ok rendered)
    (malformed : Url.parse (target.endpointText query) = .error fault) :
    target.requestUrl query =
      .error (.invalidUrl (target.endpointText query) fault.message) := by
  rw [endpointText] at malformed
  rw [requestUrl]
  simp only [found, endpointUrl, malformed]
  rfl

theorem requestUrl_of_parsed {rendered : Option String} {endpoint : Url}
    (found : query.render (target.resolve query).2.hostKey = .ok rendered)
    (parsed : Url.parse (target.endpointText query) = .ok endpoint) :
    target.requestUrl query = .ok (endpoint.appendPair "query" (rendered.getD "")) := by
  rw [endpointText] at parsed
  rw [requestUrl]
  simp only [found, endpointUrl, parsed]
  rfl

end Target

end Service

end InventoryQuery
