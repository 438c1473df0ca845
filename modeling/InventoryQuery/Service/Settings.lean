import InventoryQuery.Service.Endpoint
/-! # Settings of the inventory service

`Settings` is what a host application keeps in its configuration file; every member has a default
and may be left out. `Target` is what an execution needs of it: a base URL, the endpoints and a
timeout.
-/

namespace InventoryQuery.Service

/-- How the inventory service is reached. -/
structure Settings where
  scheme : String := "https"
  host : String := "localhost"
  port : UInt16 := 443
  apiVersion : UInt32 := 3
  /-- Seconds after which a request is given up. -/
  timeout : Option UInt64 := none
  endpoints : Endpoints := {}
  deriving DecidableEq, Repr

/-- Where and how the requests of an execution are sent. -/
structure Target where
  baseUrl : String
  endpoints : Endpoints
  timeout : Option UInt64
  deriving DecidableEq, Repr

namespace Settings

/-- The base URL of the query interface; it ends with a slash. -/
def baseUrl (settings : Settings) : String :=
  settings.scheme ++ "://" ++ settings.host ++ ":" ++ toString settings.port.toNat ++ "/v" ++
    toString settings.apiVersion.toNat ++ "/"

/-- The target of some settings. -/
def target (settings : Settings) : Target :=
  ⟨settings.baseUrl, settings.endpoints, settings.timeout⟩

/-- The members of the settings that were read so far. -/
structure Draft where
  scheme : Option String := none
  host : Option String := none
  port : Option UInt16 := none
  apiVersion : Option UInt32 := none
  timeout : Option (Option UInt64) := none
  endpoints : Option Endpoints := none

/-- A member that is not given keeps its default. -/
def Draft.settings (draft : Draft) : Settings :=
  let defaults : Settings := {}
  { scheme := draft.scheme.getD defaults.scheme
    host := draft.host.getD defaults.host
    port := draft.port.getD defaults.port
    apiVersion := draft.apiVersion.getD defaults.apiVersion
    timeout := draft.timeout.getD defaults.timeout
    endpoints := draft.endpoints.getD defaults.endpoints }

/-- The fields of the settings in their order. -/
def fields : List (Json.Field Draft) := [
  .of "scheme" (·.scheme) (fun draft s => { draft with scheme := some s }) Json.readText,
  .of "host" (·.host) (fun draft s => { draft with host := some s }) Json.readText,
  .of "port" (·.port) (fun draft n => { draft with port := some n })
    (Json.readAs UInt16.ofNat (Json.readBelow (Nat.pow 2 16) "u16")),
  .of "api_version" (·.apiVersion) (fun draft n => { draft with apiVersion := some n })
    (Json.readAs UInt32.ofNat (Json.readBelow (Nat.pow 2 32) "u32")),
  .of "timeout" (·.timeout) (fun draft n => { draft with timeout := some n })
    (Json.readOptional (Json.readAs UInt64.ofNat (Json.readBelow (Nat.pow 2 64) "u64"))),
  .of "endpoints" (·.endpoints) (fun draft table => { draft with endpoints := some table })
    (Json.readRecord Endpoints.shape)]

/-- Every member of the settings may be left out. -/
def shape : Json.Shape Draft Settings where
  name := "struct PuppetDbConfig"
  fields := fields
  blank := {}
  finish draft := .ok draft.settings
  short _ := none

/-- Reads settings from a JSON text. -/
def parse (text : String) : Except Json.Error Settings :=
  Json.readWhole (Json.readRecord shape) text

/-- The value of the settings. -/
def toJson (settings : Settings) : Json :=
  .object [
    ("scheme", .string settings.scheme),
    ("host", .string settings.host),
    ("port", .natural settings.port.toNat),
    ("api_version", .natural settings.apiVersion.toNat),
    ("timeout", (settings.timeout.map fun seconds => Json.natural seconds.toNat).getD .null),
    ("endpoints", settings.endpoints.toJson)]

end Settings

/-- The target of the default settings. -/
instance : Inhabited Target := ⟨Settings.target {}⟩

/-- A target for which only some parts are given; the other parts are those of the default
settings. -/
def Target.ofParts (baseUrl : Option String) (endpoints : Option Endpoints)
    (timeout : Option UInt64) : Target :=
  let defaults := Settings.target {}
  ⟨baseUrl.getD defaults.baseUrl, endpoints.getD defaults.endpoints, timeout⟩

end InventoryQuery.Service
