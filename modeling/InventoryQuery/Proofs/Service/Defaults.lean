import InventoryQuery.Proofs.Json.Record
import InventoryQuery.Service.Settings
/-! # Settings with members left out

The settings are read back from the text of any selection of their members, in any order and layout:
what is left out has its default, and nothing that is given is replaced by one
(`Settings.parse_excerpt`).
-/

namespace InventoryQuery.Service

open Json (Covers Takes objectOf)

section Drafts

variable {μ α : Type} [DecidableEq μ] {read : List μ} {member other : μ} {value : α}

/-- The value of a member in a draft, if the member was read. -/
def kept (read : List μ) (member : μ) (value : α) : Option α :=
  if member ∈ read then some value else none

@[simp] theorem kept_nil : kept [] member value = none := rfl

@[simp] theorem kept_concat : kept (read ++ [member]) member value = some value :=
  if_pos List.mem_concat_self

theorem kept_of_not_mem (absent : member ∉ read) : kept read member value = none :=
  if_neg absent

@[simp] theorem kept_concat_of_ne (differ : other ≠ member) :
    kept (read ++ [member]) other value = kept read other value := by
  simp [kept, differ]

theorem getD_kept {default : α} :
    (kept read member value).getD default = if member ∈ read then value else default := by
  rw [kept]
  split <;> rfl

/-- A field that the draft lacks is found by its name and read into the draft. -/
theorem exists_field {δ : Type} {fields : List (Json.Field δ)} {name : String}
    {get : δ → Option α} {set : δ → α → δ} {reader : Json.Reader α} {tokens : List (List Char)}
    {draft next : δ} (found : fields.find? (·.name = name) = some (.of name get set reader))
    (lacking : get draft = none) (takes : Takes reader tokens value)
    (same : set draft value = next) :
    ∃ field, fields.find? (·.name = name) = some field ∧ field.given draft = false ∧
      Takes (field.read draft) tokens next :=
  ⟨_, found, congrArg Option.isSome lacking, same ▸ takes.readAs (set draft)⟩

end Drafts

namespace Endpoint

/-- The members of an endpoint. -/
inductive Member where
  | path
  | hostKey
  deriving DecidableEq, Repr

/-- The name of a member. -/
def Member.name : Member → String
  | path => "path"
  | hostKey => "host_key"

variable (endpoint : Endpoint)

/-- The value of a member. -/
def member : Member → Json
  | .path => .string endpoint.path
  | .hostKey => .string endpoint.hostKey

/-- The draft with some members. -/
def draft (read : List Member) : Draft where
  path := kept read .path endpoint.path
  hostKey := kept read .hostKey endpoint.hostKey

theorem covers : Covers shape.fields Member.name endpoint.member endpoint.draft := by
  intro read member unread
  cases member with
  | path =>
    exact exists_field rfl (kept_of_not_mem unread) (Json.takes_readText _) (by simp [draft])
  | hostKey =>
    exact exists_field rfl (kept_of_not_mem unread) (Json.takes_readText _) (by simp [draft])

/-- An endpoint is read back as a part of other values. -/
theorem takes_readRecord : Takes (Json.readRecord shape) endpoint.toJson.tokens endpoint := by
  have whole : endpoint.toJson = objectOf Member.name endpoint.member [.path, .hostKey] := rfl
  have finished : shape.finish (endpoint.draft [.path, .hostKey]) = .ok endpoint := rfl
  rw [whole]
  exact Json.takes_readRecord endpoint.covers rfl (by decide) finished

end Endpoint

namespace Endpoints

/-- The name of the endpoint for a category. -/
def memberName : Category → String
  | .fact => "fact"
  | .resource => "resource"

variable (table : Endpoints)

/-- The value of the endpoint for a category. -/
def member (category : Category) : Json :=
  (table.resolve category).toJson

/-- The draft with the endpoints for some categories. -/
def draft (read : List Category) : Draft where
  fact := kept read .fact table.fact
  resource := kept read .resource table.resource

theorem covers : Covers shape.fields memberName table.member table.draft := by
  intro read member unread
  cases member with
  | fact =>
    exact exists_field rfl (kept_of_not_mem unread) table.fact.takes_readRecord (by simp [draft])
  | resource =>
    exact exists_field rfl (kept_of_not_mem unread) table.resource.takes_readRecord
      (by simp [draft])

/-- The value that holds the endpoints for some categories. -/
def excerpt (sides : List Category) : Json :=
  objectOf memberName table.member sides

/-- The table that has the default endpoints for all but some categories. -/
def restrict (sides : List Category) : Endpoints where
  fact := if .fact ∈ sides then table.fact else ({} : Endpoints).fact
  resource := if .resource ∈ sides then table.resource else ({} : Endpoints).resource

theorem finish_draft (sides : List Category) :
    shape.finish (table.draft sides) = .ok (table.restrict sides) := by
  simp only [shape, draft, restrict, getD_kept]

theorem takes_readRecord {sides : List Category} (once : sides.Nodup) :
    Takes (Json.readRecord shape) (table.excerpt sides).tokens (table.restrict sides) :=
  Json.takes_readRecord table.covers rfl once (table.finish_draft sides)

end Endpoints

namespace Settings

/-- The members of the settings. -/
inductive Member where
  | scheme
  | host
  | port
  | apiVersion
  | timeout
  | endpoints
  deriving DecidableEq, Repr

/-- The name of a member. -/
def Member.name : Member → String
  | scheme => "scheme"
  | host => "host"
  | port => "port"
  | apiVersion => "api_version"
  | timeout => "timeout"
  | endpoints => "endpoints"

variable (settings : Settings) (sides : List Category)

/-- The value of a member; of the endpoints, only those for some categories. -/
def member : Member → Json
  | .scheme => .string settings.scheme
  | .host => .string settings.host
  | .port => .natural settings.port.toNat
  | .apiVersion => .natural settings.apiVersion.toNat
  | .timeout => (settings.timeout.map fun seconds => Json.natural seconds.toNat).getD .null
  | .endpoints => settings.endpoints.excerpt sides

/-- The draft with some members. -/
def draft (read : List Member) : Draft where
  scheme := kept read .scheme settings.scheme
  host := kept read .host settings.host
  port := kept read .port settings.port
  apiVersion := kept read .apiVersion settings.apiVersion
  timeout := kept read .timeout settings.timeout
  endpoints := kept read .endpoints (settings.endpoints.restrict sides)

theorem takes_port (port : UInt16) :
    Takes (Json.readAs UInt16.ofNat (Json.readBelow (Nat.pow 2 16) "u16"))
      (Json.natural port.toNat).tokens port :=
  Json.takes_bounded (fun _ => UInt16.ofNat_toNat) UInt16.toNat_lt (by decide) port

theorem takes_apiVersion (version : UInt32) :
    Takes (Json.readAs UInt32.ofNat (Json.readBelow (Nat.pow 2 32) "u32"))
      (Json.natural version.toNat).tokens version :=
  Json.takes_bounded (fun _ => UInt32.ofNat_toNat) UInt32.toNat_lt (by decide) version

theorem takes_timeout (timeout : Option UInt64) :
    Takes (Json.readOptional (Json.readAs UInt64.ofNat (Json.readBelow (Nat.pow 2 64) "u64")))
      ((timeout.map fun seconds => Json.natural seconds.toNat).getD .null).tokens timeout := by
  cases timeout with
  | none => exact Json.takes_readOptional_null
  | some seconds =>
    have takes : Takes (Json.readAs UInt64.ofNat (Json.readBelow (Nat.pow 2 64) "u64"))
        (Json.natural seconds.toNat).tokens seconds :=
      Json.takes_bounded (fun _ => UInt64.ofNat_toNat) UInt64.toNat_lt (by decide) seconds
    exact takes.readOptional

theorem covers (once : sides.Nodup) :
    Covers shape.fields Member.name (settings.member sides) (settings.draft sides) := by
  intro read member unread
  cases member with
  | scheme =>
    exact exists_field rfl (kept_of_not_mem unread) (Json.takes_readText _) (by simp [draft])
  | host =>
    exact exists_field rfl (kept_of_not_mem unread) (Json.takes_readText _) (by simp [draft])
  | port =>
    exact exists_field rfl (kept_of_not_mem unread) (takes_port _) (by simp [draft])
  | apiVersion =>
    exact exists_field rfl (kept_of_not_mem unread) (takes_apiVersion _) (by simp [draft])
  | timeout =>
    exact exists_field rfl (kept_of_not_mem unread) (takes_timeout _) (by simp [draft])
  | endpoints =>
    exact exists_field rfl (kept_of_not_mem unread) (settings.endpoints.takes_readRecord once)
      (by simp [draft])

/-- The value that holds some members of the settings; of the endpoints, those for some
categories. -/
def excerpt (members : List Member) (sides : List Category) : Json :=
  objectOf Member.name (settings.member sides) members

/-- The settings that have the defaults for all but some members. -/
def restrict (members : List Member) (sides : List Category) : Settings :=
  let defaults : Settings := {}
  { scheme := if .scheme ∈ members then settings.scheme else defaults.scheme
    host := if .host ∈ members then settings.host else defaults.host
    port := if .port ∈ members then settings.port else defaults.port
    apiVersion := if .apiVersion ∈ members then settings.apiVersion else defaults.apiVersion
    timeout := if .timeout ∈ members then settings.timeout else defaults.timeout
    endpoints :=
      if .endpoints ∈ members then settings.endpoints.restrict sides else defaults.endpoints }

theorem settings_draft (members : List Member) :
    (settings.draft sides members).settings = settings.restrict members sides := by
  simp only [Draft.settings, draft, restrict, getD_kept]

theorem parse_spaced {settings : Settings} {members : List Member} {sides : List Category}
    {text : String} (once : members.Nodup) (onceSides : sides.Nodup)
    (spaced : Json.Spaced (settings.excerpt members sides).tokens text.toList) :
    parse text = .ok (settings.restrict members sides) :=
  Json.readWhole_members (settings.covers sides onceSides) rfl once
    (congrArg Except.ok (settings.settings_draft sides members)) spaced

/-- All members of the settings. -/
def Member.all : List Member :=
  [scheme, host, port, apiVersion, timeout, endpoints]

theorem restrict_all : settings.restrict Member.all [.fact, .resource] = settings :=
  rfl

/-- Settings are read back from any of their members, each once and in any order and layout: what
was left out has its default. In particular they are read back from their own text, and requests
then have the same target. -/
theorem parse_excerpt (settings : Settings) {members : List Member} {sides : List Category}
    (once : members.Nodup) (onceSides : sides.Nodup) :
    (∀ text : String, Json.Spaced (settings.excerpt members sides).tokens text.toList →
      parse text = .ok (settings.restrict members sides)) ∧
    parse (settings.excerpt members sides).write = .ok (settings.restrict members sides) ∧
    parse settings.toJson.write = .ok settings ∧
    (parse settings.toJson.write).map target = .ok settings.target := by
  have whole : parse settings.toJson.write = .ok (settings.restrict Member.all [.fact, .resource]) :=
    parse_spaced (by decide) (by decide) (Json.spaced_tokens (settings.excerpt Member.all _))
  rw [restrict_all] at whole
  refine ⟨fun text spaced => parse_spaced once onceSides spaced,
    parse_spaced once onceSides (Json.spaced_tokens _), whole, ?_⟩
  rw [whole]
  rfl

theorem parse_excerpt_port_endpoints :
    [Member.port, .endpoints].Nodup ∧ [Category.resource].Nodup ∧
      parse ("\x7b\"port\":8081,\"endpoints\":" ++
        "\x7b\"resource\":\x7b\"path\":\"all/\",\"host_key\":\"\\\"\"\x7d\x7d\x7d") =
          .ok { port := 8081, endpoints := { resource := ⟨"all/", "\""⟩ } } := by
  let settings : Settings :=
    { scheme := "http", host := "db", port := 8081, timeout := some 5,
      endpoints := ⟨⟨"facts", "key"⟩, ⟨"all/", "\""⟩⟩ }
  have once : [Member.port, .endpoints].Nodup := by decide
  have onceSides : [Category.resource].Nodup := by decide
  refine ⟨once, onceSides, ?_⟩
  have written : (settings.excerpt [.port, .endpoints] [.resource]).write =
      "\x7b\"port\":8081,\"endpoints\":" ++
        "\x7b\"resource\":\x7b\"path\":\"all/\",\"host_key\":\"\\\"\"\x7d\x7d\x7d" := by decide
  rw [← written]
  exact (parse_excerpt settings once onceSides).2.1

end Settings

end InventoryQuery.Service
