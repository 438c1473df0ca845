/-! # Query categories

A query asks about facts or about resources, never about both. The category is written as one
letter in a query text; the two names in full are read as well.
-/

namespace InventoryQuery

/-- What a query asks about, and with it the endpoint that answers. -/
inductive Category where
  | fact
  | resource
  deriving DecidableEq, Repr

namespace Category

/-- The letter that stands for a category in a query text. -/
def letter : Category → String
  | fact => "F"
  | resource => "R"

/-- Reads the letter or the full name of a category. -/
def parse? (text : String) : Option Category :=
  if text = "F" ∨ text = "fact" then some fact
  else if text = "R" ∨ text = "resource" then some resource
  else none

theorem parse?_letter (category : Category) : parse? category.letter = some category := by
  cases category <;> decide

end Category

end InventoryQuery
