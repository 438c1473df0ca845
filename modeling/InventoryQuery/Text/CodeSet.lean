/-! # Sets and tables of code points

A set of code points is kept as the ascending list of the places at which membership changes. Such
lists, and other tables of code points, are written as decimal numbers in a text.
-/

namespace InventoryQuery.Text

/-- The decimal numbers in a text; what stands between them does not matter. -/
def numbers (text : String) : List Nat :=
  let (found, last) := text.toList.foldl (fun (found, current) c =>
    if c.isDigit then (found, some (current.getD 0 * 10 + (c.toNat - 48)))
    else (current.toList ++ found, none)) (([], none) : List Nat × Option Nat)
  (last.toList ++ found).reverse

/-- The numbers of each part of a text between its commas. -/
def numberRows (text : String) : List (List Nat) :=
  (text.splitToList (· == ',')).map numbers

/-- A set of code points, by the ascending places at which membership changes. -/
structure CodeSet where
  bounds : List Nat

namespace CodeSet

/-- The set whose bounds are written in a text. -/
def ofText (text : String) : CodeSet :=
  ⟨numbers text⟩

/-- Whether a character is in a set: an odd number of changes lie at or below its code point. -/
def contains (set : CodeSet) (c : Char) : Bool :=
  set.bounds.countP (· ≤ c.toNat) % 2 == 1

end CodeSet

end InventoryQuery.Text
