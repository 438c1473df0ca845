/-! # Connectives and comparisons

A connective joins the conditions of one group; a comparison relates an operand and a value. Each
has one spelling on the wire, and `Comparison.parse?` reads exactly these spellings.
-/

namespace InventoryQuery

/-- How the conditions of a group are joined. -/
inductive Connective where
  | and
  | or
  deriving DecidableEq, Repr

/-- The keyword of a connective. -/
def Connective.text : Connective → String
  | .and => "and"
  | .or => "or"

/-- How an operand is compared with a value. -/
inductive Comparison where
  | equal
  | atLeast
  | atMost
  | greater
  | less
  | matching
  deriving DecidableEq, Repr

namespace Comparison

/-- Equality is meant where no comparison is given. -/
instance : Inhabited Comparison := ⟨equal⟩

/-- The spelling of a comparison. -/
def text : Comparison → String
  | equal => "="
  | atLeast => ">="
  | atMost => "<="
  | greater => ">"
  | less => "<"
  | matching => "~"

/-- Reads the spelling of a comparison. -/
def parse? : String → Option Comparison
  | "=" => some equal
  | ">=" => some atLeast
  | "<=" => some atMost
  | ">" => some greater
  | "<" => some less
  | "~" => some .matching
  | _ => none

theorem parse?_text (comparison : Comparison) :
    parse? comparison.text = some comparison := by
  cases comparison <;> rfl

end Comparison

end InventoryQuery
