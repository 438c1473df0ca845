import InventoryQuery.Proofs.Service.Extraction
import InventoryQuery.Proofs.Service.Session
import InventoryQuery.Proofs.Text.Order
import Mathlib.Data.List.Perm.Subperm
/-! # Results do not depend on how a reply lists its hosts

A set of hosts is determined by what it contains, since it lists each host once and in ascending
order. So two successful executions of one request have the same result if their replies name the
same hosts, in whatever order, however often and beside whatever other members.
-/

namespace InventoryQuery.Service

namespace HostSet

/-- The answers of a set to all that can be asked of it fit together. The order of the sorted hosts
is that of their code points and of their bytes, every listing of the hosts sorts to them, and the
set lists them in this order itself. -/
structure Coherent (set : HostSet) : Prop where
  ascending : set.sorted.Pairwise (· < ·)
  ascendingBytes : (set.sorted.map fun host => Text.bytes host.toList).Pairwise (· < ·)
  contains_iff : ∀ host, set.contains host = true ↔ host ∈ set.sorted
  sorts : ∀ listing : List String, listing.Nodup →
    (∀ host, host ∈ listing ↔ set.contains host = true) → sort listing = set.sorted
  sorted_eq : set.sorted = set.hosts
  size_eq : set.size = set.sorted.length
  size_le : set.size ≤ set.entries
  isEmpty_iff : set.isEmpty = true ↔ set.entries = 0

/-- Two sets give the same answers to all that can be asked of their hosts. -/
structure Agrees (set other : HostSet) : Prop where
  hosts : set.hosts = other.hosts
  sorted : set.sorted = other.sorted
  size : set.size = other.size
  isEmpty : set.isEmpty = other.isEmpty
  contains : ∀ host, set.contains host = other.contains host

section Lists

variable {hosts others : List String}

theorem nodup_of_ascending (ascending : hosts.Pairwise (· < ·)) : hosts.Nodup :=
  ascending.imp fun less => by
    rintro rfl
    exact String.lt_irrefl _ less

theorem weaken_ascending (ascending : hosts.Pairwise (· < ·)) : hosts.Pairwise (· ≤ ·) :=
  ascending.imp fun less => String.not_lt.mp (String.lt_asymm less)

/-- What is listed in ascending order is determined by what is listed. -/
theorem eq_of_ascending (ascending : hosts.Pairwise (· ≤ ·)) (ascending' : others.Pairwise (· ≤ ·))
    (nodup : hosts.Nodup) (nodup' : others.Nodup) (same : ∀ host, host ∈ hosts ↔ host ∈ others) :
    hosts = others :=
  ((List.perm_ext_iff_of_nodup nodup nodup').mpr same).eq_of_pairwise
    (fun _ _ _ _ => String.le_antisymm) ascending ascending'

/-- The order in which hosts are listed plays no part once they are sorted. -/
theorem sort_eq (ascending : hosts.Pairwise (· < ·)) (nodup : others.Nodup)
    (same : ∀ host, host ∈ others ↔ host ∈ hosts) : sort others = hosts := by
  have perm : (sort others).Perm others := List.mergeSort_perm _ _
  have sorted : (sort others).Pairwise (· ≤ ·) := by
    refine (List.pairwise_mergeSort ?_ ?_ others).imp of_decide_eq_true
    · intro first second third
      simpa using String.le_trans
    · intro first second
      simpa using String.le_total first second
  refine eq_of_ascending sorted (weaken_ascending ascending) (perm.nodup_iff.mpr nodup)
    (nodup_of_ascending ascending) fun host => ?_
  rw [perm.mem_iff, same]

end Lists

/-- Hosts that are listed in ascending order are left so. -/
theorem sorted_eq_hosts {set : HostSet} (ascending : set.hosts.Pairwise (· < ·)) :
    set.sorted = set.hosts :=
  sort_eq ascending (nodup_of_ascending ascending) fun _ => Iff.rfl

theorem contains_eq_true_iff {set : HostSet} {host : String} :
    set.contains host = true ↔ host ∈ set.hosts := by
  rw [contains, List.contains_iff_mem]

theorem agrees_of_hosts_eq {set other : HostSet} (same : set.hosts = other.hosts) :
    set.Agrees other where
  hosts := same
  sorted := by rw [sorted, sorted, same]
  size := by rw [size, size, same]
  isEmpty := by rw [isEmpty, isEmpty, same]
  contains _ := by rw [contains, contains, same]

end HostSet

/-- A text is JSON for an array of objects, one of which has a host under the host key. -/
def Names (hostKey body host : String) : Prop :=
  ∃ entries : List (List (String × Json)), Json.parse body = .ok (.array (entries.map .object)) ∧
    ∃ entry ∈ entries, Last entry hostKey (.string host)

section Bodies

variable {hostKey body : String} {set : HostSet}

/-- Only entries that all name a host yield hosts. -/
theorem exists_of_entryHosts {entries : List (List (String × Json))} {index : Nat}
    {hosts : List String} (found : entryHosts hostKey index entries = .ok hosts) :
    ∀ entry ∈ entries, ∃ host, Last entry hostKey (.string host) := by
  induction entries generalizing index hosts with
  | nil => exact List.forall_mem_nil _
  | cons entry entries ih =>
    rw [entryHosts] at found
    cases first : entryHost? hostKey entry with
    | none =>
      rw [first] at found
      cases found
    | some host =>
      rw [first] at found
      cases others : entryHosts hostKey (index + 1) entries with
      | error failure =>
        simp only [others] at found
        cases found
      | ok hosts' =>
        exact List.forall_mem_cons.mpr ⟨⟨host, entryHost?_eq_some_iff.mp first⟩, ih others⟩

/-- What a body is out of which hosts are collected. -/
theorem exists_entries_of_extractHosts (extracted : extractHosts hostKey body = .ok set) :
    ∃ entries : List (List (String × Json)), Json.parse body = .ok (.array (entries.map .object)) ∧
      (∀ entry ∈ entries, ∃ host, Last entry hostKey (.string host)) ∧
      set.Collects entries fun entry host => Last entry hostKey (.string host) := by
  rw [extractHosts] at extracted
  cases read : readEntries body with
  | error error =>
    rw [read] at extracted
    cases extracted
  | ok entries =>
    have parsed := readEntries_eq_ok_iff.mp read
    have named : ∀ entry ∈ entries, ∃ host, Last entry hostKey (.string host) := by
      cases found : entryHosts hostKey 0 entries with
      | error failure =>
        simp only [read, found] at extracted
        cases extracted
      | ok hosts => exact exists_of_entryHosts found
    obtain ⟨set', extracted', collects⟩ := extractHosts_of_named parsed named
    rw [← extractHosts, extracted'] at extracted
    cases extracted
    exact ⟨entries, parsed, named, collects⟩

/-- The hosts that are collected out of a body are those that it names. -/
theorem mem_hosts_iff (extracted : extractHosts hostKey body = .ok set) (host : String) :
    host ∈ set.hosts ↔ Names hostKey body host := by
  obtain ⟨entries, parsed, _, collects⟩ := exists_entries_of_extractHosts extracted
  rw [collects.mem_iff]
  constructor
  · exact fun present => ⟨entries, parsed, present⟩
  · rintro ⟨others, parsed', present⟩
    have same := Json.array.inj (Except.ok.inj (parsed'.symm.trans parsed))
    rwa [List.map_injective_iff.mpr (fun _ _ => Json.object.inj) same] at present

theorem ascending_of_extractHosts (extracted : extractHosts hostKey body = .ok set) :
    set.hosts.Pairwise (· < ·) := by
  obtain ⟨_, _, _, collects⟩ := exists_entries_of_extractHosts extracted
  exact collects.ascending

theorem size_le_of_extractHosts (extracted : extractHosts hostKey body = .ok set) :
    set.size ≤ set.entries := by
  obtain ⟨entries, _, _, collects⟩ := exists_entries_of_extractHosts extracted
  have inside : set.hosts ⊆ entries.filterMap (entryHost? hostKey) := fun host present => by
    obtain ⟨entry, listed, last⟩ := (collects.mem_iff host).mp present
    exact List.mem_filterMap.mpr ⟨entry, listed, entryHost?_eq_some_iff.mpr last⟩
  rw [HostSet.size, collects.count]
  calc set.hosts.length
      ≤ (entries.filterMap (entryHost? hostKey)).length :=
        ((HostSet.nodup_of_ascending collects.ascending).subperm inside).length_le
    _ ≤ entries.length := List.length_filterMap_le _ _

/-- Since every entry names a host, only a reply without entries has none. -/
theorem isEmpty_iff_of_extractHosts (extracted : extractHosts hostKey body = .ok set) :
    set.isEmpty = true ↔ set.entries = 0 := by
  obtain ⟨entries, _, named, collects⟩ := exists_entries_of_extractHosts extracted
  rw [HostSet.isEmpty, List.isEmpty_iff, collects.count, List.length_eq_zero_iff,
    List.eq_nil_iff_forall_not_mem]
  constructor
  · intro none
    refine List.eq_nil_iff_forall_not_mem.mpr fun entry listed => ?_
    obtain ⟨host, last⟩ := named entry listed
    exact none host ((collects.mem_iff host).mpr ⟨entry, listed, last⟩)
  · rintro rfl host present
    obtain ⟨entry, listed, _⟩ := (collects.mem_iff host).mp present
    cases listed

theorem coherent_of_extractHosts (extracted : extractHosts hostKey body = .ok set) :
    set.Coherent := by
  have ascending := ascending_of_extractHosts extracted
  have sorted := HostSet.sorted_eq_hosts ascending
  constructor
  case ascending => rwa [sorted]
  case ascendingBytes =>
    rw [sorted, List.pairwise_map]
    exact ascending.imp fun less => Text.bytes_lt_bytes_iff.mpr (String.lt_iff.mp less)
  case contains_iff =>
    intro host
    rw [sorted, HostSet.contains_eq_true_iff]
  case sorts =>
    intro listing nodup same
    rw [sorted]
    exact HostSet.sort_eq ascending nodup fun host =>
      (same host).trans HostSet.contains_eq_true_iff
  case sorted_eq => exact sorted
  case size_eq => rw [sorted, HostSet.size]
  case size_le => exact size_le_of_extractHosts extracted
  case isEmpty_iff => exact isEmpty_iff_of_extractHosts extracted

/-- Bodies that name the same hosts yield the same hosts. -/
theorem agrees_of_names {body' : String} {set' : HostSet}
    (extracted : extractHosts hostKey body = .ok set)
    (extracted' : extractHosts hostKey body' = .ok set')
    (same : ∀ host, Names hostKey body host ↔ Names hostKey body' host) : set.Agrees set' := by
  have ascending := ascending_of_extractHosts extracted
  have ascending' := ascending_of_extractHosts extracted'
  apply HostSet.agrees_of_hosts_eq
  apply HostSet.eq_of_ascending (HostSet.weaken_ascending ascending)
    (HostSet.weaken_ascending ascending') (HostSet.nodup_of_ascending ascending)
    (HostSet.nodup_of_ascending ascending')
  intro host
  rw [mem_hosts_iff extracted, mem_hosts_iff extracted', same]

end Bodies

/-- A reply among some exchanges names a host. -/
def NamesIn (hostKey : String) (exchanges : List Exchange) (host : String) : Prop :=
  ∃ exchange ∈ exchanges, ∃ reply, exchange.2 = .ok reply ∧ Names hostKey reply.body host

theorem namesIn_single {hostKey host : String} {url : Url} {reply : Reply} :
    NamesIn hostKey [(url, .ok reply)] host ↔ Names hostKey reply.body host := by
  simp [NamesIn]

namespace Target

variable {σ : Type} {target : Target} {request : Request} {query : Query}

/-- All that is exchanged with a transport when a request is executed on it. -/
def exchanged (target : Target) (transport : Transport σ) (request : Request) (state : σ) :
    List Exchange :=
  (target.perform transport.recorded request (state, [])).2.2

/-- An execution that succeeds has collected its hosts out of a reply. -/
theorem Outcome.exists_reply {result : Except Failure HostSet} {exchanges : List Exchange}
    {set : HostSet} (outcome : target.Outcome request result exchanges)
    (read : request.read = .ok query) (succeeded : result = .ok set) :
    ∃ url reply, exchanges = [(url, .ok reply)] ∧
      extractHosts (target.resolve query).2.hostKey reply.body = .ok set := by
  cases outcome with
  | unread | unrendered | unaddressed | unanswered | unsuccessful => cases succeeded
  | answered read' formed inside =>
    obtain rfl := Except.ok.inj (read.symm.trans read')
    exact ⟨_, _, rfl, succeeded⟩

theorem exists_reply_of_perform {transport : Transport σ} {state : σ} {set : HostSet}
    (read : request.read = .ok query)
    (succeeded : (target.perform transport request state).1 = .ok set) :
    ∃ url reply, target.exchanged transport request state = [(url, .ok reply)] ∧
      extractHosts (target.resolve query).2.hostKey reply.body = .ok set := by
  obtain ⟨exchanges, outcome, recorded⟩ := target.perform_recorded transport request state []
  rw [exchanged, recorded]
  exact outcome.exists_reply read succeeded

theorem perform_eq_execute (transport : Transport σ) (read : request.read = .ok query)
    (state : σ) : target.perform transport request state = target.execute transport query state := by
  cases request with
  | text text => rw [perform, executeText, show Query.parse text = .ok query from read]
  | query built => rw [perform, show built = query from Except.ok.inj read]

/-- A reply that tells of success yields what is collected out of it. -/
theorem perform_of_reply (transport : Transport σ) (state : σ) {url : Url} {reply : Reply}
    (read : request.read = .ok query) (formed : target.requestUrl query = .ok url)
    (answered : (transport url state).1 = .ok reply) (success : reply.isSuccess = true) :
    (target.perform transport request state).1 =
        extractHosts (target.resolve query).2.hostKey reply.body ∧
      target.exchanged transport request state = [(url, .ok reply)] := by
  constructor
  · rw [perform_eq_execute transport read, execute, formed]
    dsimp only
    rw [show transport url state = (.ok reply, (transport url state).2) from
      Prod.ext answered rfl]
    exact if_pos success
  · rw [exchanged, perform_eq_execute transport.recorded read, execute_recorded, exchanges, formed]
    simp only [answered, List.nil_append]

end Target

/-- Two successful executions of one request, on whatever transports, yield the same hosts if the
replies name the same hosts under the host key of the request. Whatever one execution yields is
coherent. -/
theorem executions_agree (target : Target) {request : Request} {query : Query}
    (read : request.read = .ok query) :
    (∀ (σ τ : Type) (transport : Transport σ) (other : Transport τ) (state : σ) (state' : τ)
        (set set' : HostSet),
      (target.perform transport request state).1 = .ok set →
      (target.perform other request state').1 = .ok set' →
      (∀ host,
        NamesIn (target.resolve query).2.hostKey (target.exchanged transport request state) host ↔
        NamesIn (target.resolve query).2.hostKey (target.exchanged other request state') host) →
      set.Agrees set') ∧
    ∀ (σ : Type) (transport : Transport σ) (state : σ) (set : HostSet),
      (target.perform transport request state).1 = .ok set → set.Coherent := by
  constructor
  · intro σ τ transport other state state' set set' succeeded succeeded' same
    obtain ⟨_, reply, exchanged, extracted⟩ := Target.exists_reply_of_perform read succeeded
    obtain ⟨_, reply', exchanged', extracted'⟩ := Target.exists_reply_of_perform read succeeded'
    simp only [exchanged, exchanged', namesIn_single] at same
    exact agrees_of_names extracted extracted' same
  · intro σ transport state set succeeded
    obtain ⟨_, _, _, extracted⟩ := Target.exists_reply_of_perform read succeeded
    exact coherent_of_extractHosts extracted

/-- The same two hosts, once in another order, with a repeated entry and a member beside. -/
theorem executions_agree_reordered :
    let request := Request.text "db*"
    let target : Target := ⟨"http://db/v3", {}, none⟩
    let answering (body : String) : Transport Unit := fun _ state => (.ok ⟨200, body⟩, state)
    let transport := answering "[\x7b\"name\":\"é\"\x7d,\x7b\"name\":\"b\"\x7d]"
    let other := answering
      "[\x7b\"name\":\"b\",\"os\":1\x7d,\x7b\"name\":\"é\"\x7d,\x7b\"name\":\"b\"\x7d]"
    let set : HostSet := ⟨["b", "é"], 2⟩
    let set' : HostSet := ⟨["b", "é"], 3⟩
    ∃ query, request.read = .ok query ∧
      (target.perform transport request ()).1 = .ok set ∧
      (target.perform other request ()).1 = .ok set' ∧
      (∀ host,
        NamesIn (target.resolve query).2.hostKey (target.exchanged transport request ()) host ↔
        NamesIn (target.resolve query).2.hostKey (target.exchanged other request ()) host) ∧
      set.Agrees set' ∧ set.Coherent := by
  intro request target answering transport other set set'
  let query : Query :=
    ⟨#[⟨none, none, [.term (.combine .or [.compare .matching .hostKey "^db.*$"])]⟩], 0, none⟩
  let endpoint : Url := ⟨"http", some { host := .domain "db" }, "/v3/nodes", none, none⟩
  have read : request.read = .ok query := by
    have parsed : Expression.parse "db*" = .ok ⟨.atom false (.hosts ["db*"]), []⟩ := by rfl
    show Query.parse "db*" = .ok query
    rw [Query.parse, parsed]
    rfl
  have found : query.render (target.resolve query).2.hostKey =
      .ok (some "[\"or\", [\"~\", \"name\", \"^db.*$\"]]") := by decide +kernel
  have joined : joinPath "http://db/v3" "nodes" = "http://db/v3/nodes" := by decide +kernel
  have parsed : Url.parse (target.endpointText query) = .ok endpoint := by
    rw [Target.endpointText]
    exact (congrArg Url.parse joined).trans rfl
  have formed := Target.requestUrl_of_parsed found parsed
  have extracted : extractHosts "name"
      "[\x7b\"name\":\"é\"\x7d,\x7b\"name\":\"b\"\x7d]" = .ok set := by rfl
  have extracted' : extractHosts "name"
      "[\x7b\"name\":\"b\",\"os\":1\x7d,\x7b\"name\":\"é\"\x7d,\x7b\"name\":\"b\"\x7d]" =
        .ok set' := by rfl
  obtain ⟨succeeded, exchanged⟩ :=
    Target.perform_of_reply transport () read formed rfl rfl
  obtain ⟨succeeded', exchanged'⟩ :=
    Target.perform_of_reply other () read formed rfl rfl
  have same (host : String) :
      NamesIn (target.resolve query).2.hostKey (target.exchanged transport request ()) host ↔
        NamesIn (target.resolve query).2.hostKey (target.exchanged other request ()) host := by
    rw [exchanged, exchanged', namesIn_single, namesIn_single]
    exact (mem_hosts_iff extracted host).symm.trans (mem_hosts_iff extracted' host)
  obtain ⟨agrees, coherent⟩ := executions_agree target read
  exact ⟨query, read, succeeded.trans extracted, succeeded'.trans extracted', same,
    agrees _ _ transport other () () set set' (succeeded.trans extracted)
      (succeeded'.trans extracted') same,
    coherent _ transport () set (succeeded.trans extracted)⟩

end InventoryQuery.Service
