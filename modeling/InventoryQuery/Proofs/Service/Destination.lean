import InventoryQuery.Proofs.Service.Addressing
import InventoryQuery.Proofs.Url.Reading
/-! # Requests go where the settings say

A site is an origin with the names below which its endpoints lie. Whatever the number of slashes
where its base URL and the path of an endpoint meet, the request goes to the origin of the site, and
every name of the site stands in its path (`request_reaches_site`).
-/

namespace InventoryQuery.Service

open Url (Origin)
open Url.Path (isNameChar isPathChar)

/-- Where the endpoints of a service lie: an origin, and names that stand before their paths. -/
structure Site extends Origin where
  segments : List String
  named : ∀ segment ∈ segments, segment ≠ "" ∧ segment.toList.all isNameChar = true

namespace Site

variable (site : Site)

/-- The path that every endpoint lies below. -/
def path : String :=
  String.join (site.segments.map ("/" ++ ·))

/-- The base URL with a number of slashes at its end. -/
def baseUrl (slashes : Nat) : String :=
  site.written ++ site.path ++ String.ofList (.replicate slashes '/')

theorem named_version (version : UInt32) :
    ∀ segment ∈ ["v" ++ toString version.toNat],
      segment ≠ "" ∧ segment.toList.all isNameChar = true := by
  intro segment present
  rw [List.mem_singleton.mp present, Nat.toString_eq_ofList_toDigits]
  refine ⟨by simp, ?_⟩
  rw [String.toList_append, List.all_append, Bool.and_eq_true]
  refine ⟨rfl, ?_⟩
  rw [String.toList_ofList, List.all_eq_true]
  exact fun c => Url.Path.isNameChar_of_mem_toDigits

/-- The site of a version at the origin of another one. -/
def versioned (version : UInt32) : Site :=
  { site with segments := ["v" ++ toString version.toNat], named := named_version version }

theorem baseUrl_settings (version : UInt32) (timeout : Option UInt64) (endpoints : Endpoints) :
    Settings.baseUrl ⟨site.scheme, site.host, site.port, version, timeout, endpoints⟩ =
      (site.versioned version).baseUrl 1 := by
  have start : "/v" = "/" ++ "v" := rfl
  simp only [Settings.baseUrl, baseUrl, path, versioned, Origin.written, start,
    List.map_singleton, ← String.append_assoc]
  simp [String.append_assoc]

theorem toList_path : site.path.toList = site.segments.flatMap ('/' :: ·.toList) := by
  simp [path, List.flatMap_map]

/-- What ends with a plain name ends with no slash. -/
theorem getLast?_append_name {front name : List Char} (some_char : name ≠ [])
    (plain : ∀ c ∈ name, isNameChar c = true) : (front ++ name).getLast? ≠ some '/' := by
  rw [List.getLast?_append, List.getLast?_eq_some_getLast some_char, Option.some_or]
  intro last
  cases plain '/' (Option.some.inj last ▸ List.getLast_mem some_char)

theorem getLast?_append_segments {segments : List String}
    (named : ∀ segment ∈ segments, segment ≠ "" ∧ segment.toList.all isNameChar = true)
    {front : List Char} (ends : front.getLast? ≠ some '/') :
    (front ++ segments.flatMap ('/' :: ·.toList)).getLast? ≠ some '/' := by
  -- the front takes one segment after the other
  induction segments generalizing front with
  | nil => rwa [List.flatMap_nil, List.append_nil]
  | cons segment segments ih =>
    rw [List.forall_mem_cons] at named
    have some_char : segment.toList ≠ [] := by simpa using named.1.1
    rw [List.flatMap_cons, ← List.append_assoc]
    apply ih named.2
    rw [List.append_cons]
    exact getLast?_append_name some_char (List.all_eq_true.mp named.1.2)

theorem getLast?_written : site.written.toList.getLast? ≠ some '/' := by
  have whole : site.written.toList = site.scheme.toList ++ ':' :: '/' :: '/' ::
      (Url.Domain.hostText (site.labels.map String.toList) ++ [':']) ++
        Nat.toDigits 10 site.port.toNat := by
    rw [Origin.toList_written]
    simp
  rw [whole]
  exact getLast?_append_name Nat.toDigits_ne_nil fun c => Url.Path.isNameChar_of_mem_toDigits

/-- Slashes at the end are dropped, and only they. -/
theorem dropSlashes {front : List Char} (ends : front.getLast? ≠ some '/') (slashes : Nat) :
    ((front ++ .replicate slashes '/').reverse.dropWhile (· == '/')).reverse = front := by
  rw [List.reverse_append, List.reverse_replicate, List.dropWhile_append_of_pos (by simp)]
  rw [← List.head?_reverse] at ends
  have kept : front.reverse.dropWhile (· == '/') = front.reverse := by
    cases backwards : front.reverse with
    | nil => rfl
    | cons c rest =>
      rw [backwards, List.head?_cons] at ends
      apply List.dropWhile_cons_of_neg
      simpa using ends
  rw [kept, List.reverse_reverse]

theorem joinPath_baseUrl (slashes : Nat) (path : String) :
    joinPath (site.baseUrl slashes) path = String.ofList (site.written.toList ++
      (site.path.toList ++ '/' :: path.toList.dropWhile (· == '/'))) := by
  have ends : (site.written.toList ++ site.path.toList).getLast? ≠ some '/' := by
    rw [toList_path]
    exact getLast?_append_segments site.named site.getLast?_written
  rw [joinPath, baseUrl, String.toList_append, String.toList_append, String.toList_ofList,
    dropSlashes ends, List.append_assoc]

/-- The path of an endpoint begins with a slash and holds plain names. -/
theorem exists_inner {path : List Char} (plain : ∀ c ∈ path, isPathChar c = true) :
    ∃ inner, site.path.toList ++ '/' :: path = '/' :: inner ∧ ∀ c ∈ inner, isPathChar c = true := by
  have each : ∀ c ∈ site.path.toList ++ '/' :: path, isPathChar c = true := by
    rw [toList_path, List.forall_mem_append, List.forall_mem_cons]
    refine ⟨fun c present => ?_, rfl, plain⟩
    obtain ⟨segment, among, present⟩ := List.mem_flatMap.mp present
    rcases List.mem_cons.mp present with rfl | inSegment
    · rfl
    · exact Url.Path.isPathChar_of_isNameChar
        (List.all_eq_true.mp (site.named segment among).2 c inSegment)
  rw [toList_path] at each ⊢
  -- the first slash is that of the first segment, or the one before the path
  cases known : site.segments with
  | nil => exact ⟨path, rfl, plain⟩
  | cons segment segments =>
    rw [known] at each
    exact ⟨_, rfl, fun c present => each c (List.mem_cons_of_mem _ present)⟩

end Site

/-- The URL of the endpoint for a query is read at the site. -/
theorem Target.parse_endpointText {site : Site} {slashes : Nat} {target : Target} {query : Query}
    (based : target.baseUrl = site.baseUrl slashes)
    (plain : (target.resolve query).2.path.toList.all isPathChar = true) :
    Url.parse (target.endpointText query) = .ok (site.url (site.path ++ "/" ++
      String.ofList ((target.resolve query).2.path.toList.dropWhile (· == '/')))) := by
  have tail : ∀ c ∈ (target.resolve query).2.path.toList.dropWhile (· == '/'),
      isPathChar c = true := fun c present =>
    List.all_eq_true.mp plain c ((List.dropWhile_sublist _).mem present)
  obtain ⟨inner, whole, named⟩ := site.exists_inner tail
  have path : site.path ++ "/" ++ String.ofList
      ((target.resolve query).2.path.toList.dropWhile (· == '/')) =
        String.ofList ('/' :: inner) := by
    rw [← whole]
    apply String.toList_injective
    simp
  rw [path, endpointText, based, site.joinPath_baseUrl, whole]
  exact site.parse_written named

/-- The request for a query goes to the site, whatever the number of slashes at the end of its base
URL and in front of the path of the endpoint: its text is that of the site, less a port that the
scheme implies, with the path behind one slash and the text of the query as the only pair. The base
URL of settings is that of a site with one slash. -/
theorem request_reaches_site {site : Site} {slashes : Nat} {target : Target} {query : Query}
    {rendered : Option String} (based : target.baseUrl = site.baseUrl slashes)
    (plain : (target.resolve query).2.path.toList.all isPathChar = true)
    (found : query.render (target.resolve query).2.hostKey = .ok rendered) :
    (∃ url, target.requestUrl query = .ok url ∧
      url.text = site.text ++ site.path ++ "/" ++
        String.ofList ((target.resolve query).2.path.toList.dropWhile (· == '/')) ++
          "?query=" ++ Url.Form.encode (rendered.getD "") ∧
      url.scheme = site.scheme ∧ ∃ port, url.authority = some { host := .domain site.host, port } ∧
        port.getD site.impliedPort.toNat = site.port.toNat) ∧
    ∀ version timeout endpoints,
      Settings.baseUrl ⟨site.scheme, site.host, site.port, version, timeout, endpoints⟩ =
        (site.versioned version).baseUrl 1 := by
  have requested := Target.requestUrl_of_parsed found (Target.parse_endpointText based plain)
  refine ⟨⟨_, requested, ?_, rfl, _, rfl, ?_⟩, site.baseUrl_settings⟩
  · have name : Url.Form.encode "query" ++ "=" = "query=" := by decide +kernel
    have pair : "?" ++ Url.Form.pair "query" (rendered.getD "") =
        "?query=" ++ Url.Form.encode (rendered.getD "") := by
      rw [Url.Form.pair, name, ← String.append_assoc]
      rfl
    rw [Origin.text_appendPair]
    simp only [String.append_assoc, pair]
  · split
    · next implied => rw [implied, Option.getD_none]
    · rfl

theorem request_reaches_site_slashed :
    let site : Site :=
      { secure := true, labels := ["db-1", "example", "org"], port := 443
        plain := by decide +kernel
        segments := ["pdb", "v4"]
        named := by decide +kernel }
    let target : Target := ⟨"https://db-1.example.org:443/pdb/v4//", { fact := ⟨"//nodes/", "k"⟩ },
      none⟩
    let query := Query.ofCalls [.addFact "a" "é"]
    let sent := "[\"=\", [\"fact\", \"a\"], \"é\"]"
    target.baseUrl = site.baseUrl 2 ∧
      (target.resolve query).2.path.toList.all isPathChar = true ∧
      query.render (target.resolve query).2.hostKey = .ok (some sent) ∧
      ∃ url, target.requestUrl query = .ok url ∧
        url.text = "https://db-1.example.org/pdb/v4/nodes/?query=" ++
          "%5B%22%3D%22%2C+%5B%22fact%22%2C+%22a%22%5D%2C+%22%C3%A9%22%5D" := by
  intro site target query sent
  have based : target.baseUrl = site.baseUrl 2 := by decide +kernel
  have plain : (target.resolve query).2.path.toList.all isPathChar = true := by
    decide +kernel
  have found : query.render (target.resolve query).2.hostKey = .ok (some sent) := by rfl
  obtain ⟨⟨url, requested, text, -⟩, -⟩ := request_reaches_site based plain found
  have front : site.text ++ site.path ++ "/" ++
      String.ofList ((target.resolve query).2.path.toList.dropWhile (· == '/')) ++ "?query=" =
        "https://db-1.example.org/pdb/v4/nodes/?query=" := by decide +kernel
  have value : Url.Form.encode sent =
      "%5B%22%3D%22%2C+%5B%22fact%22%2C+%22a%22%5D%2C+%22%C3%A9%22%5D" := by decide +kernel
  rw [front, Option.getD_some, value] at text
  exact ⟨based, plain, found, url, requested, text⟩

end InventoryQuery.Service
