import InventoryQuery.Proofs.Json.Layout
import InventoryQuery.Service.Execution
/-! # The hosts that a reply names

The entries of a reply are read as a JSON array of objects is read, and the last member of a name
counts. Either every entry names a host, and the set of these hosts is the result, or there is no
set at all: the first entry that names none is reported, unless the body has another shape.
-/

namespace InventoryQuery.Service

section Members

variable {α : Type} {name : String} {members : List (String × α)} {value : α}

/-- A value belongs to the last of the members with a name. -/
def Last (members : List (String × α)) (name : String) (value : α) : Prop :=
  ∃ before after, members = before ++ (name, value) :: after ∧ ∀ member ∈ after, member.1 ≠ name

theorem findRev?_eq_some_iff : (members.findRev? (·.1 = name)).map (·.2) = some value ↔
    Last members name value := by
  rw [List.findRev?_eq_find?_reverse, Option.map_eq_some_iff]
  constructor
  · rintro ⟨⟨name', value'⟩, found, rfl⟩
    obtain ⟨same, after, before, split, others⟩ := List.find?_eq_some_iff_append.mp found
    obtain rfl : name' = name := by simpa using same
    refine ⟨before.reverse, after.reverse, ?_, fun member present => ?_⟩
    · simpa using congrArg List.reverse split
    · simpa using others member (List.mem_reverse.mp present)
  · rintro ⟨before, after, rfl, others⟩
    refine ⟨(name, value), List.find?_eq_some_iff_append.mpr ⟨by simp, after.reverse,
      before.reverse, by simp, fun member present => ?_⟩, rfl⟩
    simpa using others member (List.mem_reverse.mp present)

/-- If some member has a name, one of them is the last. -/
theorem exists_last (present : ∃ member ∈ members, member.1 = name) :
    ∃ value, Last members name value := by
  cases found : (members.findRev? (·.1 = name)).map (·.2) with
  | some value => exact ⟨value, findRev?_eq_some_iff.mp found⟩
  | none =>
    rw [List.findRev?_eq_find?_reverse, Option.map_eq_none_iff, List.find?_eq_none] at found
    obtain ⟨member, present, same⟩ := present
    exact absurd (decide_eq_true same) (found member (List.mem_reverse.mpr present))

end Members

section Entries

variable {hostKey : String} {entry : List (String × Json)} {entries : List (List (String × Json))}

theorem entryHost?_eq_some_iff {host : String} :
    entryHost? hostKey entry = some host ↔ Last entry hostKey (.string host) := by
  rw [← findRev?_eq_some_iff, entryHost?, Option.bind_eq_some_iff]
  constructor
  · rintro ⟨value, found, same⟩
    cases value <;> cases same
    exact found
  · exact fun found => ⟨_, found, rfl⟩

theorem entryHosts_eq_ok (named : ∀ entry ∈ entries, ∃ host, entryHost? hostKey entry = some host)
    (index : Nat) :
    entryHosts hostKey index entries = .ok (entries.filterMap (entryHost? hostKey)) := by
  induction entries generalizing index with
  | nil => rfl
  | cons entry entries ih =>
    obtain ⟨⟨host, found⟩, others⟩ := List.forall_mem_cons.mp named
    rw [entryHosts, found, List.filterMap_cons_some found]
    simp only [ih others]
    rfl

/-- The first entry that names no host ends the search, at its index. -/
theorem entryHosts_eq_missing {before after : List (List (String × Json))}
    (named : ∀ other ∈ before, ∃ host, entryHost? hostKey other = some host)
    (missing : entryHost? hostKey entry = none) (index : Nat) :
    entryHosts hostKey index (before ++ entry :: after) =
      .error (.missingHostKey (index + before.length) hostKey) := by
  induction before generalizing index with
  | nil =>
    rw [List.nil_append, entryHosts, missing]
    rfl
  | cons other before ih =>
    obtain ⟨⟨host, found⟩, others⟩ := List.forall_mem_cons.mp named
    rw [List.cons_append, entryHosts, found]
    simp only [ih others]
    rw [List.length_cons, Nat.add_assoc, Nat.add_comm 1]
    rfl

/-- The entries of a body are the objects of the array that it is. -/
theorem readEntries_eq_ok_iff {body : String} :
    readEntries body = .ok entries ↔ Json.parse body = .ok (.array (entries.map .object)) :=
  Json.narrows_readMap.readList.readWhole_eq_ok_iff

/-- In an object that holds texts, the last members are those of the texts. -/
theorem last_ofRow {row : List (String × String)} {name text : String} :
    Last (Json.ofRow row) name (.string text) ↔ Last row name text := by
  constructor
  · rintro ⟨before, after, split, others⟩
    obtain ⟨before, more, rfl, rfl, split'⟩ := List.map_eq_append_iff.mp split
    obtain ⟨⟨name', text'⟩, after, rfl, same, rfl⟩ := List.map_eq_cons_iff.mp split'
    cases same
    exact ⟨before, after, rfl, fun member present => others _ (List.mem_map_of_mem present)⟩
  · rintro ⟨before, after, rfl, others⟩
    refine ⟨Json.ofRow before, Json.ofRow after, List.map_append, fun member present => ?_⟩
    obtain ⟨member', present', rfl⟩ := List.mem_map.mp present
    exact others member' present'

end Entries

/-- A set holds exactly the hosts that some entries name, each once and in ascending order, and
counts the entries. -/
structure HostSet.Collects {ρ : Type} (set : HostSet) (entries : List ρ)
    (names : ρ → String → Prop) : Prop where
  ascending : set.hosts.Pairwise (· < ·)
  mem_iff : ∀ host, host ∈ set.hosts ↔ ∃ entry ∈ entries, names entry host
  count : set.entries = entries.length

section Bodies

variable {hostKey body : String} {entry : List (String × Json)}
  {entries before after : List (List (String × Json))}

theorem extractHosts_of_shape
    (shape : ∀ entries : List (List (String × Json)),
      Json.parse body ≠ .ok (.array (entries.map .object))) :
    ∃ error, extractHosts hostKey body = .error (.body error) := by
  rw [extractHosts]
  cases read : readEntries body with
  | error error => exact ⟨error, rfl⟩
  | ok entries => exact absurd (readEntries_eq_ok_iff.mp read) (shape entries)

theorem extractHosts_of_missing
    (parsed : Json.parse body = .ok (.array ((before ++ entry :: after).map .object)))
    (named : ∀ other ∈ before, ∃ host, Last other hostKey (.string host))
    (missing : ∀ host, ¬ Last entry hostKey (.string host)) :
    extractHosts hostKey body = .error (.missingHostKey before.length hostKey) := by
  simp only [← entryHost?_eq_some_iff] at named missing
  rw [extractHosts, readEntries_eq_ok_iff.mpr parsed]
  simp only [entryHosts_eq_missing named (Option.eq_none_iff_forall_ne_some.mpr missing)]
  rw [Nat.zero_add]
  rfl

theorem extractHosts_of_named (parsed : Json.parse body = .ok (.array (entries.map .object)))
    (named : ∀ entry ∈ entries, ∃ host, Last entry hostKey (.string host)) :
    ∃ set, extractHosts hostKey body = .ok set ∧
      set.Collects entries fun entry host => Last entry hostKey (.string host) := by
  simp only [← entryHost?_eq_some_iff] at named ⊢
  refine ⟨HostSet.ofList (entries.filterMap (entryHost? hostKey)) entries.length, ?_, ?_⟩
  · rw [extractHosts, readEntries_eq_ok_iff.mpr parsed]
    simp only [entryHosts_eq_ok named]
    rfl
  · exact ⟨HostSet.ascending_ofList _ _, fun host =>
      HostSet.mem_ofList.trans List.mem_filterMap, rfl⟩

/-- Objects that hold texts are collected out of every layout of them. -/
theorem extractHosts_of_rows {rows : List (List (String × String))} {text : String}
    (spaced : Json.Spaced (Json.rowsTokens rows) text.toList)
    (named : ∀ row ∈ rows, ∃ member ∈ row, member.1 = hostKey) :
    ∃ set, extractHosts hostKey text = .ok set ∧
      set.Collects rows fun row host => Last row hostKey host := by
  have parsed : Json.parse text = .ok (.array ((rows.map Json.ofRow).map .object)) := by
    rw [Json.parse_rows spaced, List.map_map]
    rfl
  have named' : ∀ entry ∈ rows.map Json.ofRow, ∃ host, Last entry hostKey (.string host) := by
    intro entry present
    obtain ⟨row, present', rfl⟩ := List.mem_map.mp present
    obtain ⟨host, last⟩ := exists_last (named row present')
    exact ⟨host, last_ofRow.mpr last⟩
  obtain ⟨set, extracted, collects⟩ := extractHosts_of_named parsed named'
  refine ⟨set, extracted, collects.ascending, fun host => ?_, ?_⟩
  · simp only [collects.mem_iff, List.mem_map, exists_exists_and_eq_and, last_ofRow]
  · rw [collects.count, List.length_map]

end Bodies

/-- What the hosts of a body are, depending on what its JSON text is. A body of another shape than
an array of objects is refused as such, whatever else is wrong with it. Else the first entry whose
last member of the key is no text is reported with its index. Else the result holds the texts of the
last members of the key, and nothing else, and the number of the entries; so objects that hold texts
are collected out of every layout of them. -/
theorem extractHosts_exact (hostKey : String) :
    (∀ body, (∀ entries : List (List (String × Json)),
        Json.parse body ≠ .ok (.array (entries.map .object))) →
      ∃ error, extractHosts hostKey body = .error (.body error)) ∧
    (∀ body before entry after,
      Json.parse body = .ok (.array ((before ++ entry :: after).map .object)) →
      (∀ other ∈ before, ∃ host, Last other hostKey (.string host)) →
      (∀ host, ¬ Last entry hostKey (.string host)) →
      extractHosts hostKey body = .error (.missingHostKey before.length hostKey)) ∧
    (∀ body entries, Json.parse body = .ok (.array (entries.map .object)) →
      (∀ entry ∈ entries, ∃ host, Last entry hostKey (.string host)) →
      ∃ set, extractHosts hostKey body = .ok set ∧
        set.Collects entries fun entry host => Last entry hostKey (.string host)) ∧
    ∀ rows text, Json.Spaced (Json.rowsTokens rows) text.toList →
      (∀ row ∈ rows, ∃ member ∈ row, member.1 = hostKey) →
      ∃ set, extractHosts hostKey text = .ok set ∧
        set.Collects rows fun row host => Last row hostKey host :=
  ⟨fun _ => extractHosts_of_shape, fun _ _ _ _ => extractHosts_of_missing,
    fun _ _ => extractHosts_of_named, fun _ _ => extractHosts_of_rows⟩

/-- A number before an object without the key, a repeated key whose last value is no text, an object
with the key, and texts with escapes under a repeated key. -/
theorem extractHosts_exact_repeated :
    let row := [("certname", "a"), ("os", "x\x22"), ("certname", "é\n")]
    (∃ error, extractHosts "certname" "[1, \x7b\x7d]" = .error (.body error)) ∧
      extractHosts "certname"
          "[\x7b\"certname\":\"a\"\x7d, \x7b\"certname\":\"b\", \"certname\":null\x7d]" =
        .error (.missingHostKey 1 "certname") ∧
      (∃ set, extractHosts "certname" "[\x7b\"certname\":\"a\"\x7d]" = .ok set ∧
        "a" ∈ set.hosts) ∧
      ∃ set, extractHosts "certname" (Json.write (.array [.object (Json.ofRow row)])) = .ok set ∧
        "é\n" ∈ set.hosts ∧ set.entries = 1 := by
  intro row
  obtain ⟨ofShape, ofMissing, ofNamed, ofRows⟩ := extractHosts_exact "certname"
  have first : Last [("certname", Json.string "a")] "certname" (.string "a") :=
    ⟨[], [], rfl, List.forall_mem_nil _⟩
  have named : ∀ entry ∈ [[("certname", Json.string "a")]],
      ∃ host, Last entry "certname" (.string host) :=
    List.forall_mem_singleton.mpr ⟨"a", first⟩
  refine ⟨ofShape _ fun entries other => ?_, ?_, ?_, ?_⟩
  · have parsed : Json.parse "[1, \x7b\x7d]" = .ok (.array [.natural 1, .object []]) := by rfl
    rw [parsed] at other
    cases entries <;> cases other
  · have parsed : Json.parse
        "[\x7b\"certname\":\"a\"\x7d, \x7b\"certname\":\"b\", \"certname\":null\x7d]" =
          .ok (.array (([[("certname", Json.string "a")]] ++
            [("certname", Json.string "b"), ("certname", Json.null)] :: []).map .object)) := by
      rfl
    have missing :
        entryHost? "certname" [("certname", .string "b"), ("certname", .null)] = none := by
      rfl
    refine ofMissing _ _ _ _ parsed named fun host last => ?_
    rw [entryHost?_eq_some_iff.mpr last] at missing
    cases missing
  · have parsed : Json.parse "[\x7b\"certname\":\"a\"\x7d]" =
        .ok (.array ([[("certname", Json.string "a")]].map .object)) := by rfl
    obtain ⟨set, extracted, collects⟩ := ofNamed _ _ parsed named
    exact ⟨set, extracted, (collects.mem_iff "a").mpr ⟨_, List.mem_singleton.mpr rfl, first⟩⟩
  · obtain ⟨set, extracted, collects⟩ := ofRows [row] _ (Json.spaced_write [row]) (by decide)
    have last : Last row "certname" "é\n" :=
      ⟨[("certname", "a"), ("os", "x\x22")], [], rfl, List.forall_mem_nil _⟩
    exact ⟨set, extracted, (collects.mem_iff _).mpr ⟨row, List.mem_singleton.mpr rfl, last⟩,
      collects.count⟩

end InventoryQuery.Service
