import InventoryQuery.Expression.Reader
import InventoryQuery.Query.Tree
import InventoryQuery.Service.HostSet
import InventoryQuery.Service.Settings
import InventoryQuery.Service.Transport
import InventoryQuery.Url.Form
import InventoryQuery.Url.Reader
/-! # Executing queries

A query goes to the endpoint of its category. It is serialized first, then its URL is formed, and
only then one request is sent; the reply must tell of success and hold an array of objects that all
name a host. The result, the requests and the state of the transport are all there is to an
execution: what is logged on the way and how long it takes are left out.
-/

namespace InventoryQuery.Service

/-- A base URL and a path with one slash between them. -/
def joinPath (baseUrl path : String) : String :=
  String.ofList ((baseUrl.toList.reverse.dropWhile (· == '/')).reverse ++ '/' ::
    path.toList.dropWhile (· == '/'))

namespace Target

/-- The category and endpoint of a query; without a category it asks about facts. -/
def resolve (target : Target) (query : Query) : Category × Endpoint :=
  let category := query.category.getD .fact
  (category, target.endpoints.resolve category)

/-- The URL of an endpoint, without a query. -/
def endpointUrl (target : Target) (endpoint : Endpoint) : Except Failure Url :=
  let text := joinPath target.baseUrl endpoint.path
  match Url.parse text with
  | .ok url => .ok url
  | .error fault => .error (.invalidUrl text fault.message)

/-- The URL of the request for a query; a query that matches everything is sent empty. -/
def requestUrl (target : Target) (query : Query) : Except Failure Url :=
  let (_, endpoint) := target.resolve query
  match query.render endpoint.hostKey with
  | .error refusal => .error (.query refusal)
  | .ok rendered => do
    let url ← target.endpointUrl endpoint
    return url.appendPair "query" (rendered.getD "")

end Target

/-- Reads the entries of a reply: an array of objects with values of any shape. -/
def readEntries (body : String) : Except Json.Error (List (List (String × Json))) :=
  Json.readWhole (Json.readList (Json.readMap (Json.readValue (Json.nestingLimit - 2)))) body

/-- The host that an entry names. -/
def entryHost? (hostKey : String) (entry : List (String × Json)) : Option String :=
  (Json.member? hostKey entry).bind Json.string?

/-- The hosts that some entries name; the first entry that names none is a failure. -/
def entryHosts (hostKey : String) (index : Nat) :
    List (List (String × Json)) → Except Failure (List String)
  | [] => .ok []
  | entry :: entries =>
    match entryHost? hostKey entry with
    | none => .error (.missingHostKey index hostKey)
    | some host => do
      let hosts ← entryHosts hostKey (index + 1) entries
      return host :: hosts

/-- The hosts that the body of a reply names. -/
def extractHosts (hostKey body : String) : Except Failure HostSet :=
  match readEntries body with
  | .error error => .error (.body error)
  | .ok entries => do
    let hosts ← entryHosts hostKey 0 entries
    return HostSet.ofList hosts entries.length

/-- The hosts that a reply to a request names. -/
def readReply (hostKey : String) (url : Url) (reply : Reply) : Except Failure HostSet :=
  if reply.isSuccess then extractHosts hostKey reply.body
  else .error (.status reply.status url.text)

namespace Target

/-- Executes a query. -/
def execute {σ : Type} (target : Target) (transport : Transport σ) (query : Query) (state : σ) :
    Except Failure HostSet × σ :=
  match target.requestUrl query with
  | .error failure => (.error failure, state)
  | .ok url =>
    match transport url state with
    | (.error failure, state) => (.error failure, state)
    | (.ok reply, state) => (readReply (target.resolve query).2.hostKey url reply, state)

/-- Executes the query of a text. -/
def executeText {σ : Type} (target : Target) (transport : Transport σ) (text : String)
    (state : σ) : Except Failure HostSet × σ :=
  match Query.parse text with
  | .error refusal => (.error (.query refusal), state)
  | .ok query => target.execute transport query state

end Target

/-- What is executed: a text, or a query that was built. -/
inductive Request where
  | text (text : String)
  | query (query : Query)

/-- Executes one request. -/
def Target.perform {σ : Type} (target : Target) (transport : Transport σ) (request : Request)
    (state : σ) : Except Failure HostSet × σ :=
  match request with
  | .text text => target.executeText transport text state
  | .query query => target.execute transport query state

end InventoryQuery.Service
