import InventoryQuery.Text.Hexadecimal
import InventoryQuery.Text.Split
/-! # Numeric host addresses

A host whose last part is a number is an IPv4 address; its parts may be decimal, octal or
hexadecimal, and the last of fewer than four parts fills the remaining bytes. An IPv6 address has
eight pieces, of which one run of zeros may be left out, and may end in four decimal bytes.
-/

namespace InventoryQuery.Url

/-- The number written by digits of a base; none if some character is no digit of it. -/
def numberIn? (base : Nat) (digits : List Char) : Option Nat :=
  digits.foldlM (fun n c => do
    let digit ← Text.hexValue? c
    guard (digit < base)
    return n * base + digit) 0

/-- The parts of a text between its dots. -/
def dotParts (text : List Char) : List (List Char) :=
  Text.split (· == '.') text

namespace Ipv4

/-- The number of one part of an address; a bare `0x` is zero. -/
def part? : List Char → Option Nat
  | [] => none
  | '0' :: 'x' :: digits => numberIn? 16 digits
  | '0' :: 'X' :: digits => numberIn? 16 digits
  | '0' :: c :: digits => numberIn? 8 (c :: digits)
  | digits => numberIn? 10 digits

/-- The parts of a host, less an empty one after a trailing dot. -/
def parts (host : List Char) : List (List Char) :=
  let all := dotParts host
  if all.getLast? = some [] then all.dropLast else all

/-- Whether a host is to be read as an address: its last part is a number. -/
def isNumeric (host : List Char) : Bool :=
  match (parts host).getLast? with
  | none => false
  | some last => (!last.isEmpty && last.all Char.isDigit) || (part? last).isSome

/-- Reads an address of at most four parts. -/
def parse? (host : List Char) : Option UInt32 := do
  let texts := parts host
  guard (texts.length ≤ 4)
  let numbers ← texts.mapM part?
  let last ← numbers.getLast?
  let leading := numbers.dropLast
  guard (last < Nat.pow 256 (4 - leading.length))
  guard (leading.all (· < 256))
  let shifted := leading.mapIdx fun index n => n * Nat.pow 256 (3 - index)
  return .ofNat (last + shifted.foldr (· + ·) 0)

/-- The four decimal bytes of an address. -/
def text (address : UInt32) : String :=
  let n := address.toNat
  ".".intercalate [toString (n / Nat.pow 256 3), toString (n / Nat.pow 256 2 % 256),
    toString (n / 256 % 256), toString (n % 256)]

end Ipv4

namespace Ipv6

/-- The pieces read so far, and how many of them stand before the run that was left out. -/
structure Progress where
  pieces : List Nat := []
  gap : Option Nat := none

/-- The number of pieces that are accounted for; the run that was left out counts as one. -/
def Progress.count (progress : Progress) : Nat :=
  progress.pieces.length + if progress.gap.isSome then 1 else 0

/-- The decimal byte at the end of an address: at most three digits, none of them a leading zero. -/
def byte? (digits : List Char) : Option Nat := do
  guard (!digits.isEmpty && digits.all Char.isDigit && digits.length ≤ 3)
  guard (digits.length = 1 || digits.head? ≠ some '0')
  let n ← numberIn? 10 digits
  guard (n < 256)
  return n

/-- The two pieces of four decimal bytes. -/
def quad? (text : List Char) : Option (List Nat) := do
  match ← (dotParts text).mapM byte? with
  | [a, b, c, d] => return [a * 256 + b, c * 256 + d]
  | _ => none

/-- Reads pieces to the end of the text; `fuel` bounds its length. -/
def readPieces (fuel : Nat) (progress : Progress) (text : List Char) : Option Progress :=
  match fuel, text with
  | _, [] => some progress
  | 0, _ => none
  | fuel + 1, c :: rest =>
    if progress.count = 8 then none
    else if c = ':' then
      if progress.gap.isSome then none
      else readPieces fuel { progress with gap := some progress.pieces.length } rest
    else
      let digits := (text.take 4).takeWhile fun d => (Text.hexValue? d).isSome
      let piece := (numberIn? 16 digits).getD 0
      match text.drop digits.length with
      | [] => some { progress with pieces := progress.pieces ++ [piece] }
      | '.' :: _ =>
        if digits.isEmpty || 6 < progress.count then none
        else (quad? text).map fun pair => { progress with pieces := progress.pieces ++ pair }
      | [':'] => none
      | ':' :: rest => readPieces fuel { progress with pieces := progress.pieces ++ [piece] } rest
      | _ => none

/-- Reads an address. -/
def parse? (text : List Char) : Option (List UInt16) := do
  let progress ← match text with
    | ':' :: ':' :: rest => readPieces rest.length { gap := some 0 } rest
    | ':' :: _ => none
    | [] => none
    | [_] => none
    | text => readPieces text.length {} text
  let missing := 8 - progress.pieces.length
  let pieces ← match progress.gap with
    | none => if progress.pieces.length = 8 then some progress.pieces else none
    | some gap =>
      if progress.count ≤ 8 then
        some (progress.pieces.take gap ++ List.replicate missing 0 ++ progress.pieces.drop gap)
      else none
  return pieces.map .ofNat

/-- The length of the run of zeros at the front. -/
def zeros (pieces : List UInt16) : Nat :=
  (pieces.takeWhile (· == 0)).length

/-- Where the first of the longest runs of at least two zeros starts, and its length. -/
def longestRun (pieces : List UInt16) : Option (Nat × Nat) :=
  let runs := (List.range pieces.length).map fun start => (start, zeros (pieces.drop start))
  runs.foldl (fun best run =>
    if 2 ≤ run.2 ∧ (best.map (·.2)).getD 0 < run.2 then some run else best) none

/-- Some pieces in lower-case hexadecimal, a colon between them. -/
def joined (pieces : List UInt16) : String :=
  ":".intercalate (pieces.map fun piece => String.ofList (Text.hexadecimal piece.toNat))

/-- The text of an address, its longest run of zeros left out. -/
def text (pieces : List UInt16) : String :=
  match longestRun pieces with
  | none => joined pieces
  | some (start, length) =>
    joined (pieces.take start) ++ "::" ++ joined (pieces.drop (start + length))

end Ipv6

end InventoryQuery.Url
