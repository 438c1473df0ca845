/-! # Sets of hosts

The hosts of an answer, each once and in ascending order of code points, so that two sets with the
same hosts are the same list. The number of entries that named them is kept beside; how long a
request took is not kept.
-/

namespace InventoryQuery.Service

/-- The hosts that an answer names, and the number of its entries. -/
structure HostSet where
  hosts : List String := []
  entries : Nat := 0
  deriving DecidableEq, Repr

namespace HostSet

/-- Puts a host at its place in an ascending list that may hold it already. -/
def insert (host : String) : List String → List String
  | [] => [host]
  | first :: others =>
    if host < first then host :: first :: others
    else if host = first then first :: others
    else first :: insert host others

/-- The set of some hosts, with the number of entries that named them. -/
def ofList (hosts : List String) (entries : Nat) : HostSet :=
  ⟨hosts.foldr insert [], entries⟩

/-- The number of hosts. -/
def size (set : HostSet) : Nat :=
  set.hosts.length

/-- Whether there is no host. -/
def isEmpty (set : HostSet) : Bool :=
  set.hosts.isEmpty

/-- Whether a host is in the set. -/
def contains (set : HostSet) (host : String) : Bool :=
  set.hosts.contains host

/-- Hosts in ascending order of code points, in whatever order they are listed. -/
def sort (listing : List String) : List String :=
  listing.mergeSort fun host other => decide (host ≤ other)

/-- The hosts of a set in ascending order. -/
def sorted (set : HostSet) : List String :=
  sort set.hosts

theorem mem_insert {host other : String} {hosts : List String} :
    other ∈ insert host hosts ↔ other = host ∨ other ∈ hosts := by
  induction hosts with
  | nil => simp [insert]
  | cons first others ih =>
    simp only [insert]
    split
    · simp
    · split
      next same => simp [same]
      next => simp only [List.mem_cons, ih]; grind

theorem mem_ofList {host : String} {hosts : List String} {entries : Nat} :
    host ∈ (ofList hosts entries).hosts ↔ host ∈ hosts := by
  simp only [ofList]
  induction hosts with
  | nil => simp
  | cons first others ih => simp [mem_insert, ih]

theorem ascending_insert {host : String} {hosts : List String}
    (ascending : hosts.Pairwise (· < ·)) : (insert host hosts).Pairwise (· < ·) := by
  induction hosts with
  | nil => exact List.pairwise_singleton _ _
  | cons first others ih =>
    obtain ⟨least, others'⟩ := List.pairwise_cons.mp ascending
    simp only [insert]
    split
    · next less =>
      refine List.pairwise_cons.mpr ⟨fun other present => ?_, ascending⟩
      rcases List.mem_cons.mp present with rfl | present
      · exact less
      · exact String.lt_trans less (least other present)
    · next notLess =>
      split
      · exact ascending
      · next differ =>
        have greater : first < host := String.not_le.mp fun notGreater =>
          differ (String.le_antisymm notGreater (String.not_lt.mp notLess))
        refine List.pairwise_cons.mpr ⟨fun other present => ?_, ih others'⟩
        rcases mem_insert.mp present with rfl | present
        · exact greater
        · exact least other present

theorem ascending_ofList (hosts : List String) (entries : Nat) :
    (ofList hosts entries).hosts.Pairwise (· < ·) := by
  simp only [ofList]
  induction hosts with
  | nil => exact List.Pairwise.nil
  | cons first others ih => exact ascending_insert ih

end HostSet

end InventoryQuery.Service
