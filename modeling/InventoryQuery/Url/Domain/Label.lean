import InventoryQuery.Text.Composition
import InventoryQuery.Text.Split
import InventoryQuery.Url.Domain.Direction
import InventoryQuery.Url.Domain.Joining
import InventoryQuery.Url.Domain.Mapping
import InventoryQuery.Url.Domain.Punycode
/-! # Domains and their labels

A domain is a sequence of labels with dots between them. `toAscii?` reads a domain however it is
written and yields the one form in which it is kept: small letters, and labels with characters
beyond ASCII encoded after a mark. A label that is already encoded must decode to what would be kept
unchanged.
-/

namespace InventoryQuery.Url.Domain

open Text (isMark normalize)

/-- The characters that no domain holds. -/
def isForbidden (c : Char) : Bool :=
  c.toNat ≤ 0x20 || c.toNat == 0x7f ||
    ['%', '#', '/', ':', '<', '>', '?', '@', '[', '\\', ']', '^', '|'].contains c

/-- What an encoded label begins with. -/
def encodedMark : List Char := ['x', 'n', '-', '-']

/-- The greatest length of an encoded label, after the mark. -/
def encodedLimit : Nat := 2000

/-- The greatest length of a label with characters beyond ASCII, as it reads. -/
def decodedLimit : Nat := 1000

/-- A label of a domain: in ASCII, and as it reads. -/
structure Label where
  ascii : List Char
  text : List Char
  deriving DecidableEq, Repr

/-- Whether a character is in ASCII. -/
def isAscii (c : Char) : Bool :=
  c.toNat < 0x80

/-- Whether a label with characters beyond ASCII may stand: it is not too long, it begins with no
mark, and its joiners stand where they may. -/
def isWellFormed (text : List Char) : Bool :=
  text.length ≤ decodedLimit && !text.head?.any isMark && joinersFit [] text

/-- Whether a label is kept unchanged. -/
def isCanonical (text : List Char) : Bool :=
  text.all isKept && normalize text == text

/-- Reads a label of a normal domain. -/
def Label.read? (label : List Char) : Option Label :=
  if encodedMark.isPrefixOf label then do
    let encoded := label.drop encodedMark.length
    guard (encoded.all isAscii && encoded.length ≤ encodedLimit)
    let text ← Punycode.decode? encoded
    guard (!text.all isAscii && isCanonical text && isWellFormed text)
    return ⟨label, text⟩
  else if label.all isAscii then some ⟨label, label⟩
  else do
    guard (isWellFormed label)
    return ⟨encodedMark ++ Punycode.encode label, label⟩

/-- The ASCII form of a domain; none if the text is no domain. -/
def toAscii? (text : List Char) : Option (List Char) := do
  let mapped ← text.mapM map?
  let normal := normalize mapped.flatten
  guard (!normal.any isForbidden)
  let labels ← (Text.split (· == '.') normal).mapM Label.read?
  let runsLeft := labels.any (·.text.any runsRightToLeft)
  guard (!runsLeft || labels.all (hasOneDirection ·.text))
  return ['.'].intercalate (labels.map (·.ascii))

end InventoryQuery.Url.Domain
