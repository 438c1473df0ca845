import InventoryQuery.Text.Split
import InventoryQuery.Url.Percent
/-! # Paths of URLs

A path is a list of segments. A single dot, also one written by its byte, is dropped; a double dot
takes the segment before it away, unless that begins with the letter of a drive; either leaves an
empty segment where it ends the path. Only the first segment of a path on files can be a drive.
-/

namespace InventoryQuery.Url

/-- The characters that may stand anywhere in the text of a URL and are no part of it. -/
def isBreak (c : Char) : Bool :=
  c == '\t' || c == '\n' || c == '\r'

/-- A text without its breaks. -/
def withoutBreaks (text : List Char) : List Char :=
  text.filter (!isBreak ·)

/-- Drops a number of characters at the front of a text, and the breaks before each. -/
def dropBeyondBreaks : Nat → List Char → List Char
  | 0, text => text
  | _ + 1, [] => []
  | count + 1, c :: rest =>
    if isBreak c then dropBeyondBreaks (count + 1) rest else dropBeyondBreaks count rest

namespace Path

/-- Whether a segment is the letter of a drive with a colon or bar. -/
def isDrive : List Char → Bool
  | [letter, mark] => letter.isAlpha && (mark == ':' || mark == '|')
  | _ => false

/-- Whether a segment is the letter of a drive, or has a backslash behind one. -/
def startsWithDrive (segment : List Char) : Bool :=
  isDrive (segment.take 2) && (segment.drop 2).head?.all (· == '\\')

/-- The dots of a segment, with those written by their byte read. -/
def dots : List Char → List Char
  | [] => []
  | '%' :: '2' :: 'e' :: rest => '.' :: dots rest
  | '%' :: '2' :: 'E' :: rest => '.' :: dots rest
  | c :: rest => c :: dots rest

/-- Whether a segment stands for its parent. -/
def isDoubleDot (segment : List Char) : Bool :=
  dots segment == ['.', '.']

/-- Whether a segment stands for nothing. -/
def isSingleDot (segment : List Char) : Bool :=
  dots segment == ['.']

/-- Whether a character separates segments. -/
def isSeparator (special : Bool) (c : Char) : Bool :=
  c == '/' || (special && c == '\\')

/-- Takes the last segment away, unless it begins with the letter of a drive. -/
def removeLast (segments : List (List Char)) : List (List Char) :=
  match segments.getLast? with
  | none => []
  | some segment => if startsWithDrive segment then segments else segments.dropLast

/-- The segments before some place of a path, and whether a drive was named among them. -/
structure Walk where
  segments : List (List Char) := []
  onDrive : Bool := false
  deriving DecidableEq, Repr

/-- A drive as it is kept: with a colon. -/
def normalizeDrive (drive : List Char) : List Char :=
  drive.take 1 ++ [':']

/-- The drive and the remainder of a segment that has a drive with a colon at its front and a break
right behind it. -/
def cutAtDrive? (written : List Char) : Option (List Char × List Char) :=
  let segment := withoutBreaks written
  let front := segment.take 2
  let cut := isDrive front && front.getLast? == some ':' &&
    (dropBeyondBreaks 2 written).head?.any isBreak
  if cut && 2 < segment.length then some (front, segment.drop 2) else none

/-- Goes on by one segment. At the start of a path on files a drive is looked for: it is kept with a
colon, and a drive with a break behind it is a segment of its own, in front of a segment that is
taken as it is. -/
def Walk.add (files : Bool) (walk : Walk) (written : List Char) (last : Bool) : Walk :=
  let segment := percentEncode inPathSet (withoutBreaks written)
  let atStart := files && walk.segments.isEmpty
  match if atStart then cutAtDrive? written else none with
  | some (drive, rest) => { walk with segments := [drive, percentEncode inPathSet rest] }
  | none =>
    let ending := if last then [[]] else []
    if isDoubleDot segment then { walk with segments := removeLast walk.segments ++ ending }
    else if isSingleDot segment then { walk with segments := walk.segments ++ ending }
    else if atStart && isDrive segment then ⟨[normalizeDrive segment], true⟩
    else { walk with segments := walk.segments ++ [segment] }

/-- Goes through the segments of a path, resolving its dots. -/
def Walk.addAll (files : Bool) (walk : Walk) : List (List Char) → Walk
  | [] => walk
  | [written] => walk.add files written true
  | written :: others => (walk.add files written false).addAll files others

/-- Writes segments, a slash before each. -/
def join (segments : List (List Char)) : List Char :=
  segments.flatMap ('/' :: ·)

/-- The segments of a path after its first slash. -/
def segments (special : Bool) (text : List Char) : List (List Char) :=
  (Walk.addAll false {} (Text.split (isSeparator special) text)).segments

end Path

end InventoryQuery.Url
