/-! # Blank and spacing characters

A text is blank when every character has the Unicode property White_Space. Between the words of a
query only four of these characters may stand: space, tab, carriage return and line feed.
-/

namespace InventoryQuery.Text

/-- The Unicode property White_Space. -/
def isBlank (c : Char) : Bool :=
  let n := c.toNat
  (0x9 ≤ n && n ≤ 0xd) || n == 0x20 || n == 0x85 || n == 0xa0 || n == 0x1680 ||
    (0x2000 ≤ n && n ≤ 0x200a) || n == 0x2028 || n == 0x2029 || n == 0x202f || n == 0x205f ||
    n == 0x3000

/-- The characters that separate the words of a query and the parts of a JSON text. -/
def isSpacing (c : Char) : Bool :=
  c == ' ' || c == '\t' || c == '\r' || c == '\n'

/-- What follows the leading spacing of a text. -/
def skipSpacing (text : List Char) : List Char :=
  text.dropWhile isSpacing

theorem isBlank_of_isSpacing {c : Char} (spacing : isSpacing c = true) : isBlank c = true := by
  simp only [isSpacing, Bool.or_eq_true, beq_iff_eq] at spacing
  rcases spacing with ((rfl | rfl) | rfl) | rfl <;> rfl

theorem skipSpacing_suffix (text : List Char) : skipSpacing text <:+ text :=
  List.dropWhile_suffix isSpacing

end InventoryQuery.Text
