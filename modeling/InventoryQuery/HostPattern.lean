import InventoryQuery.Term
/-! # Host names and globs

A host specification with a star matches every name that has any text in place of each star; every
other specification names one host. A glob is sent as an anchored regular expression in which only
the stars have a meaning of their own.
-/

namespace InventoryQuery.HostPattern

/-- Whether a host specification is a glob. -/
def isGlob (host : String) : Bool :=
  host.toList.contains '*'

/-- The characters that a regular expression would not take literally in every setting. -/
def metacharacters : List Char :=
  ['\\', '.', '+', '*', '?', '(', ')', '|', '[', ']', '\x7b', '\x7d', '^', '$', '#', '&', '-', '~']

/-- The regular expression for one character of a glob. -/
def regexChar (c : Char) : List Char :=
  if c = '*' then ['.', '*']
  else if metacharacters.contains c then ['\\', c]
  else [c]

/-- The anchored regular expression for a glob. -/
def regex (glob : String) : String :=
  String.ofList ('^' :: glob.toList.flatMap regexChar ++ ['$'])

/-- The condition that a host specification puts on the host key. -/
def term (host : String) : Term :=
  if isGlob host then .compare .matching .hostKey (regex host)
  else .compare .equal .hostKey host

/-- The condition that one of several host specifications holds; none for no specification. -/
def anyOf? (hosts : List String) (negated : Bool) : Option Term :=
  if hosts.isEmpty then none
  else some (Term.negateIf negated (.combine .or (hosts.map term)))

theorem anyOf?_eq_some_iff {hosts : List String} {negated : Bool} {added : Term} :
    anyOf? hosts negated = some added ↔
      hosts ≠ [] ∧ Term.negateIf negated (.combine .or (hosts.map term)) = added := by
  cases hosts <;> simp [anyOf?]

theorem exists_anyOf? {hosts : List String} (named : hosts ≠ []) (negated : Bool) :
    ∃ formed, anyOf? hosts negated = some formed :=
  ⟨_, anyOf?_eq_some_iff.mpr ⟨named, rfl⟩⟩

end InventoryQuery.HostPattern
