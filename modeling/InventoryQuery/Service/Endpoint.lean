import InventoryQuery.Category
import InventoryQuery.Json.Record
/-! # Endpoints of the inventory service

Each category is answered by one endpoint, which has a path and names the member of its entries
that identifies a host.
-/

namespace InventoryQuery.Service

/-- A path below the base URL and the name of the member that identifies a host. -/
structure Endpoint where
  path : String
  hostKey : String
  deriving DecidableEq, Repr

/-- The endpoints that answer the two categories. -/
structure Endpoints where
  fact : Endpoint := ⟨"nodes", "name"⟩
  resource : Endpoint := ⟨"resources", "certname"⟩
  deriving DecidableEq, Repr

namespace Endpoints

/-- The endpoint that answers a category. -/
def resolve (table : Endpoints) : Category → Endpoint
  | .fact => table.fact
  | .resource => table.resource

end Endpoints

namespace Endpoint

/-- The members of an endpoint that were read so far. -/
structure Draft where
  path : Option String := none
  hostKey : Option String := none

/-- An endpoint has no defaults: both members must be given. -/
def shape : Json.Shape Draft Endpoint where
  name := "struct Endpoint"
  fields := [
    .of "path" (·.path) (fun draft path => { draft with path := some path }) Json.readText,
    .of "host_key" (·.hostKey) (fun draft key => { draft with hostKey := some key })
      Json.readText]
  blank := {}
  finish draft :=
    match draft.path, draft.hostKey with
    | none, _ => .error (.missingField "path")
    | some _, none => .error (.missingField "host_key")
    | some path, some hostKey => .ok ⟨path, hostKey⟩
  short length := some (.wrongLength length "struct Endpoint with 2 elements")

/-- The value of an endpoint. -/
def toJson (endpoint : Endpoint) : Json :=
  .object [("path", .string endpoint.path), ("host_key", .string endpoint.hostKey)]

end Endpoint

namespace Endpoints

/-- The members of an endpoint table that were read so far. -/
structure Draft where
  fact : Option Endpoint := none
  resource : Option Endpoint := none

/-- An endpoint that is not given keeps its default. -/
def shape : Json.Shape Draft Endpoints where
  name := "struct EndpointTable"
  fields := [
    .of "fact" (·.fact) (fun draft endpoint => { draft with fact := some endpoint })
      (Json.readRecord Endpoint.shape),
    .of "resource" (·.resource) (fun draft endpoint => { draft with resource := some endpoint })
      (Json.readRecord Endpoint.shape)]
  blank := {}
  finish draft :=
    let defaults : Endpoints := {}
    .ok ⟨draft.fact.getD defaults.fact, draft.resource.getD defaults.resource⟩
  short _ := none

/-- Reads an endpoint table from a JSON text. -/
def parse (text : String) : Except Json.Error Endpoints :=
  Json.readWhole (Json.readRecord shape) text

/-- The value of an endpoint table. -/
def toJson (table : Endpoints) : Json :=
  .object [("fact", table.fact.toJson), ("resource", table.resource.toJson)]

end Endpoints

end InventoryQuery.Service
