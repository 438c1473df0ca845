import InventoryQuery.HostPattern
import Mathlib.Data.List.Forall2
/-! # Which hosts a specification selects

The service compares the name of a host with a name, or matches it with a regular expression. Regular
expressions are read here as far as they are literal characters, escaped characters and `.*` between
the two anchors; with every other use of an operator there is no reading. A glob is sent as an
expression that has a reading, character by character, and the names it matches are the globs with a
text in place of each star.
-/

namespace InventoryQuery

namespace Regex

/-- What a regular expression is made of: characters, and any text within a line. -/
inductive Piece where
  | char (c : Char)
  | any
  deriving DecidableEq, Repr

/-- The characters that are no literals unless they are escaped. -/
def operators : List Char :=
  ['\\', '.', '+', '*', '?', '(', ')', '|', '[', ']', '\x7b', '\x7d', '^', '$']

/-- The characters that an escape makes literals. -/
def escapable : List Char :=
  operators ++ ['#', '&', '-', '~']

/-- Reads pieces and the anchor behind them. -/
def readPieces : List Char → Option (List Piece)
  | [] => none
  | ['$'] => some []
  | '.' :: '*' :: rest => (readPieces rest).map (.any :: ·)
  | '\\' :: c :: rest =>
    if c ∈ escapable then (readPieces rest).map (.char c :: ·) else none
  | c :: rest => if c ∈ operators then none else (readPieces rest).map (.char c :: ·)

/-- Reads an anchored regular expression. -/
def read (regex : String) : Option (List Piece) :=
  match regex.toList with
  | '^' :: rest => readPieces rest
  | _ => none

/-- What a piece matches. -/
def Piece.Matches : Piece → List Char → Prop
  | char c, part => part = [c]
  | any, part => '\n' ∉ part

/-- A text is matched from its beginning to its end by pieces that match its parts in turn. -/
def Matches (pieces : List Piece) (text : List Char) : Prop :=
  ∃ parts, List.Forall₂ Piece.Matches pieces parts ∧ parts.flatten = text

end Regex

/-- What a comparison of the host key tells of a host with a name. -/
def Term.HoldsOf (name : String) : Term → Prop
  | .compare .equal .hostKey value => name = value
  | .compare .matching .hostKey value =>
    ∃ pieces, Regex.read value = some pieces ∧ Regex.Matches pieces name.toList
  | _ => False

namespace HostPattern

open Regex (Piece readPieces)

/-- A name is a host specification with some text, possibly empty, in place of each star. -/
def Fits (specification name : String) : Prop :=
  ∃ parts, List.Forall₂ (fun c part => c ≠ '*' → part = [c]) specification.toList parts ∧
    parts.flatten = name.toList

/-- What a character of a glob stands for. -/
def piece (c : Char) : Piece :=
  if c = '*' then .any else .char c

theorem readPieces_char {c : Char} (plain : c ∉ Regex.operators) (rest : List Char) :
    readPieces (c :: rest) = (readPieces rest).map (.char c :: ·) := by
  rw [readPieces, if_neg plain]
  · rintro rfl
    exact absurd (by decide) plain
  · rintro _ rfl
    exact absurd (by decide) plain
  · rintro _ _ rfl
    exact absurd (by decide) plain

theorem readPieces_regexChar (c : Char) (rest : List Char) :
    readPieces (regexChar c ++ rest) = (readPieces rest).map (piece c :: ·) := by
  rw [regexChar, piece]
  by_cases star : c = '*'
  · rw [if_pos star, if_pos star]
    rfl
  · rw [if_neg star, if_neg star]
    by_cases special : c ∈ metacharacters
    · have escaped : c ∈ Regex.escapable := special
      rw [if_pos (List.contains_iff_mem.mpr special)]
      exact if_pos escaped
    · have plain : c ∉ Regex.operators := fun operator => special (List.mem_append_left _ operator)
      rw [if_neg (by simpa using special)]
      exact readPieces_char plain rest

theorem readPieces_flatMap (chars : List Char) :
    readPieces (chars.flatMap regexChar ++ ['$']) = some (chars.map piece) := by
  induction chars with
  | nil => rfl
  | cons c chars ih =>
    rw [List.flatMap_cons, List.append_assoc, readPieces_regexChar, ih]
    rfl

/-- The regular expression for a glob has a reading: a star is any text, and every other character is
a literal. -/
theorem read_regex (glob : String) : Regex.read (regex glob) = some (glob.toList.map piece) := by
  rw [Regex.read, regex, String.toList_ofList]
  exact readPieces_flatMap glob.toList

theorem piece_matches_iff {c : Char} {part : List Char} (oneLine : '\n' ∉ part) :
    (piece c).Matches part ↔ (c ≠ '*' → part = [c]) := by
  rw [piece]
  by_cases star : c = '*'
  · rw [if_pos star]
    exact ⟨fun _ other => absurd star other, fun _ => oneLine⟩
  · rw [if_neg star]
    exact ⟨fun same _ => same, fun only => only star⟩

/-- Within a line the parts for the characters of a glob are those that its pieces match. -/
theorem forall₂_piece_iff {chars : List Char} {parts : List (List Char)}
    (oneLine : ∀ part ∈ parts, '\n' ∉ part) :
    List.Forall₂ Piece.Matches (chars.map piece) parts ↔
      List.Forall₂ (fun c part => c ≠ '*' → part = [c]) chars parts := by
  induction chars generalizing parts with
  | nil => simp
  | cons c chars ih =>
    cases parts with
    | nil => simp
    | cons part parts =>
      rw [List.forall_mem_cons] at oneLine
      rw [List.map_cons, List.forall₂_cons, List.forall₂_cons, piece_matches_iff oneLine.1,
        ih oneLine.2]

theorem matches_iff_fits {glob name : String} (oneLine : '\n' ∉ name.toList) :
    Regex.Matches (glob.toList.map piece) name.toList ↔ Fits glob name := by
  have lines {parts : List (List Char)} (whole : parts.flatten = name.toList) :
      ∀ part ∈ parts, '\n' ∉ part := fun part present inside =>
    oneLine (whole ▸ List.mem_flatten.mpr ⟨part, present, inside⟩)
  constructor
  · rintro ⟨parts, each, whole⟩
    exact ⟨parts, (forall₂_piece_iff (lines whole)).mp each, whole⟩
  · rintro ⟨parts, each, whole⟩
    exact ⟨parts, (forall₂_piece_iff (lines whole)).mpr each, whole⟩

theorem forall₂_plain_iff {chars : List Char} (plain : '*' ∉ chars) {parts : List (List Char)} :
    List.Forall₂ (fun c part => c ≠ '*' → part = [c]) chars parts ↔
      parts = chars.map fun c => [c] := by
  induction chars generalizing parts with
  | nil => simp
  | cons c chars ih =>
    obtain ⟨other, plain⟩ := List.ne_and_not_mem_of_not_mem_cons plain
    cases parts with
    | nil => simp
    | cons part parts => simp [ih plain, Ne.symm other]

/-- A specification without a star fits its own name only. -/
theorem fits_iff_eq {specification name : String} (plain : '*' ∉ specification.toList) :
    Fits specification name ↔ name = specification := by
  simp only [Fits, forall₂_plain_iff plain, exists_eq_left, ← List.flatMap_def,
    List.flatMap_singleton', String.toList_inj]
  exact eq_comm

/-- A host specification selects the hosts whose names it fits, however it is compared; and what is
sent for a glob is a regular expression in which each of its characters but the star is a literal. -/
theorem term_selects (specification : String) :
    (∀ name : String, '\n' ∉ name.toList →
      ((term specification).HoldsOf name ↔ Fits specification name)) ∧
      Regex.read (regex specification) = some (specification.toList.map piece) := by
  refine ⟨fun name oneLine => ?_, read_regex specification⟩
  rw [term, isGlob]
  by_cases glob : '*' ∈ specification.toList
  · rw [if_pos (List.contains_iff_mem.mpr glob), Term.HoldsOf, read_regex]
    simp only [Option.some.injEq, exists_eq_left']
    exact matches_iff_fits oneLine
  · rw [if_neg (by simpa using glob), Term.HoldsOf, fits_iff_eq glob]

/-- A star stands for any text, and a dot for itself. -/
theorem term_selects_domain :
    '\n' ∉ "h12.d".toList ∧ (term "h*.d").HoldsOf "h12.d" ∧
      '\n' ∉ "h12xd".toList ∧ ¬(term "h*.d").HoldsOf "h12xd" := by
  have oneLine : '\n' ∉ "h12.d".toList := by decide
  have oneLine' : '\n' ∉ "h12xd".toList := by decide
  refine ⟨oneLine, ((term_selects "h*.d").1 _ oneLine).mpr ?_, oneLine', fun holds => ?_⟩
  · exact ⟨[['h'], ['1', '2'], ['.'], ['d']], by simp, rfl⟩
  · obtain ⟨parts, each, whole⟩ := ((term_selects "h*.d").1 _ oneLine').mp holds
    have split : List.Forall₂ (fun c part => c ≠ '*' → part = [c]) ['h', '*', '.', 'd'] parts := each
    obtain _ | ⟨_, _ | ⟨_, _ | ⟨literal, _⟩⟩⟩ := split
    have dot : '.' ∈ "h12xd".toList := by
      rw [← whole, literal (by decide)]
      simp
    exact absurd dot (by decide)

end HostPattern

end InventoryQuery
