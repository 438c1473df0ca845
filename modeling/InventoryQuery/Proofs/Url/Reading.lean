import InventoryQuery.Proofs.Url.Domain
import InventoryQuery.Url.Reader
import Mathlib.Data.List.TakeWhile
/-! # Reading plain URLs

An origin is a web scheme with a host name and a port. A URL that is written as an origin with a path
of plain names is read as just that: the path is kept, and of the origin only a port that the scheme
implies is dropped (`Origin.parse_written`).
-/

namespace InventoryQuery

namespace Text

variable {isSeparator : Char → Bool}

theorem forall_mem_split {P : Char → Prop} {text : List Char}
    (each : ∀ c ∈ text, isSeparator c = false → P c) :
    ∀ part ∈ split isSeparator text, ∀ c ∈ part, P c := by
  induction text with
  | nil => simp [split]
  | cons c rest ih =>
    rw [List.forall_mem_cons] at each
    have others := ih each.2
    rw [split]
    split
    · exact List.forall_mem_cons.mpr ⟨List.forall_mem_nil _, others⟩
    · next plain =>
      have first := each.1 (eq_false_of_ne_true plain)
      cases parts : split isSeparator rest with
      | nil => exact absurd parts (split_ne_nil isSeparator rest)
      | cons part parts' =>
        rw [parts, List.forall_mem_cons] at others
        exact List.forall_mem_cons.mpr ⟨List.forall_mem_cons.mpr ⟨first, others.1⟩, others.2⟩

end Text

namespace Url

theorem percentEncode_eq_self {encoded : Char → Bool} {text : List Char}
    (each : ∀ c ∈ text, encoded c = false) : percentEncode encoded text = text := by
  induction text with
  | nil => rfl
  | cons c rest ih =>
    rw [List.forall_mem_cons] at each
    rw [percentEncode, List.flatMap_cons, ← percentEncode, ih each.2, each.1]
    rfl

namespace Path

/-- The characters of plain names. -/
def isNameChar (c : Char) : Bool :=
  c.isAlphanum || c == '-' || c == '_'

/-- The characters of paths of plain names. -/
def isPathChar (c : Char) : Bool :=
  isNameChar c || c == '/'

variable {c : Char} {segment text : List Char}

theorem isNameChar_of_mem_toDigits {n : Nat} (present : c ∈ Nat.toDigits 10 n) :
    isNameChar c = true := by
  have digit : c.isDigit = true := Nat.isDigit_of_mem_toDigits (by decide) (by decide) present
  rw [isNameChar, Char.isAlphanum, digit, Bool.or_true, Bool.true_or, Bool.true_or]

theorem isPathChar_of_isNameChar (name : isNameChar c = true) : isPathChar c = true := by
  rw [isPathChar, name, Bool.true_or]

theorem toNat_lt_of_isPathChar (plain : isPathChar c = true) : c.toNat < 128 := by
  rw [isPathChar, Bool.or_eq_true, beq_iff_eq] at plain
  rcases plain with name | rfl
  · apply Form.toNat_lt_of_isPlain
    simp only [isNameChar, Bool.or_eq_true] at name
    rcases name with (alphanumeric | hyphen) | underscore
    · simp [Form.isPlain, alphanumeric]
    · simp [Form.isPlain, hyphen]
    · simp [Form.isPlain, underscore]
  · decide

/-- What holds of every character of a plain path is checked one by one. -/
theorem of_isPathChar {P : Char → Prop}
    (each : ∀ n ∈ List.range 128, isPathChar (.ofNat n) = true → P (.ofNat n))
    (plain : isPathChar c = true) : P c :=
  Text.forall_ascii (P := fun c => isPathChar c = true → P c) each
    (toNat_lt_of_isPathChar plain) plain

/-- Only the slash separates plain names. -/
theorem isSeparator_eq (plain : isPathChar c = true) : isSeparator true c = (c == '/') :=
  of_isPathChar (P := fun c => isSeparator true c = (c == '/')) (by decide +kernel) plain

theorem isNameChar_spec (plain : isNameChar c = true) :
    c ≠ '.' ∧ c ≠ '%' ∧ isBreak c = false ∧ inPathSet c = false :=
  of_isPathChar (P := fun c => isNameChar c = true →
      c ≠ '.' ∧ c ≠ '%' ∧ isBreak c = false ∧ inPathSet c = false) (by decide +kernel)
    (isPathChar_of_isNameChar plain) plain

theorem dots_eq_self (plain : ∀ c ∈ segment, c ≠ '%') : dots segment = segment := by
  fun_induction dots segment with
  | case1 => rfl
  | case2 rest ih => exact absurd rfl (plain '%' List.mem_cons_self)
  | case3 rest ih => exact absurd rfl (plain '%' List.mem_cons_self)
  | case4 c rest _ _ ih => rw [ih fun other present => plain other (List.mem_cons_of_mem _ present)]

/-- A plain name is a segment as it is written. -/
theorem Walk.add_name (name : ∀ c ∈ segment, isNameChar c = true) (walk : Walk) (last : Bool) :
    walk.add false segment last = { walk with segments := walk.segments ++ [segment] } := by
  have kept : withoutBreaks segment = segment := by
    apply List.filter_eq_self.mpr
    intro c present
    rw [(isNameChar_spec (name c present)).2.2.1, Bool.not_false]
  have encoded : percentEncode inPathSet segment = segment :=
    percentEncode_eq_self fun c present => (isNameChar_spec (name c present)).2.2.2
  have dotless : dots segment = segment :=
    dots_eq_self fun c present => (isNameChar_spec (name c present)).2.1
  have noDot : '.' ∉ segment := fun present => (isNameChar_spec (name '.' present)).1 rfl
  have single : isSingleDot segment = false := by
    rw [isSingleDot, dotless, beq_eq_false_iff_ne]
    rintro rfl
    exact noDot List.mem_cons_self
  have double : isDoubleDot segment = false := by
    rw [isDoubleDot, dotless, beq_eq_false_iff_ne]
    rintro rfl
    exact noDot List.mem_cons_self
  rw [Walk.add, kept, encoded]
  simp [single, double]

theorem Walk.addAll_names {parts : List (List Char)}
    (names : ∀ part ∈ parts, ∀ c ∈ part, isNameChar c = true) (walk : Walk) :
    walk.addAll false parts = { walk with segments := walk.segments ++ parts } := by
  induction parts generalizing walk with
  | nil => rw [addAll, List.append_nil]
  | cons part others ih =>
    rw [List.forall_mem_cons] at names
    -- the last segment is added by an equation of its own
    cases others with
    | nil => rw [addAll, add_name names.1]
    | cons other others =>
      rw [addAll, add_name names.1, ih names.2, List.append_assoc, List.singleton_append]
      exact List.cons_ne_nil other others

/-- The parts of a text, each with a slash before it, are the text with one. -/
theorem join_split {isSeparator : Char → Bool}
    (slashes : ∀ c ∈ text, isSeparator c = true → c = '/') :
    join (Text.split isSeparator text) = '/' :: text := by
  induction text with
  | nil => rfl
  | cons c rest ih =>
    rw [List.forall_mem_cons] at slashes
    have others := ih slashes.2
    rw [Text.split]
    split
    · next separator =>
      rw [slashes.1 separator]
      exact congrArg ('/' :: ·) others
    · cases parts : Text.split isSeparator rest with
      | nil => exact absurd parts (Text.split_ne_nil isSeparator rest)
      | cons part parts' =>
        rw [parts] at others
        exact congrArg (fun text => '/' :: c :: text) (List.cons.inj others).2

theorem join_segments (plain : ∀ c ∈ text, isPathChar c = true) :
    join (segments true text) = '/' :: text := by
  have names : ∀ part ∈ Text.split (isSeparator true) text, ∀ c ∈ part, isNameChar c = true := by
    apply Text.forall_mem_split
    intro c present between
    have name := plain c present
    rw [isSeparator_eq name] at between
    rwa [isPathChar, between, Bool.or_false] at name
  have slashes : ∀ c ∈ text, isSeparator true c = true → c = '/' := by
    intro c present separator
    rw [isSeparator_eq (plain c present)] at separator
    exact eq_of_beq separator
  rw [segments, Walk.addAll_names names, List.nil_append]
  exact join_split slashes

end Path

section Authorities

open Domain (IsPlainHost hostText isHostChar of_isHostChar)

variable {scheme : String} {host text : List Char} {labels : List (List Char)} {port : Nat}

/-- A digit behind a number. -/
theorem numberIn?_concat {digits : List Char} {n digit : Nat} (read : numberIn? 10 digits = some n)
    (small : digit < 10) : numberIn? 10 (digits ++ [digit.digitChar]) = some (n * 10 + digit) := by
  have value : Text.hexValue? digit.digitChar = some digit :=
    Text.hexValue?_hexDigit (Nat.lt_trans small (by decide))
  have taken : (guard (digit < 10) : Option Unit) = some () := if_pos small
  rw [numberIn?] at read ⊢
  rw [List.foldlM_append, read, Option.bind_eq_bind, Option.bind_some, List.foldlM_cons, value]
  change ((guard (digit < 10) : Option Unit).bind _).bind _ = _
  rw [taken]
  rfl

theorem numberIn?_toDigits (n : Nat) : numberIn? 10 (Nat.toDigits 10 n) = some n := by
  induction n using Nat.strongRecOn with
  | ind n ih =>
    rw [Nat.toDigits_eq_if (by decide)]
    split
    · next small =>
      have none_before : numberIn? 10 [] = some 0 := rfl
      have read := numberIn?_concat none_before small
      rwa [Nat.zero_mul, Nat.zero_add] at read
    · next large =>
      rw [numberIn?_concat (ih (n / 10) (by omega)) (Nat.mod_lt n (by decide))]
      exact congrArg some (by omega)

/-- A port is read up to the path; the one that the scheme implies is dropped. -/
theorem readPort_toDigits (small : port ≤ 65535) (text : List Char) :
    readPort scheme (Nat.toDigits 10 port ++ '/' :: text) =
      .ok (if defaultPort? scheme = some port then none else some port, '/' :: text) := by
  have digits : ∀ c ∈ Nat.toDigits 10 port, c.isDigit = true := fun c present =>
    Nat.isDigit_of_mem_toDigits (by decide) (by decide) present
  have taken : (Nat.toDigits 10 port ++ '/' :: text).takeWhile Char.isDigit =
      Nat.toDigits 10 port := by
    rw [List.takeWhile_append_of_pos digits, List.takeWhile_cons_of_neg (by decide),
      List.append_nil]
  have left : (Nat.toDigits 10 port ++ '/' :: text).dropWhile Char.isDigit = '/' :: text := by
    rw [List.dropWhile_append_of_pos digits, List.dropWhile_cons_of_neg (by decide)]
  have some_digit : (Nat.toDigits 10 port).isEmpty = false := by
    rw [List.isEmpty_eq_false_iff]
    exact Nat.toDigits_ne_nil
  have ends : endsAuthority true '/' = true := rfl
  simp only [readPort, taken, left, numberIn?_toDigits, Option.getD_some, some_digit, ends,
    Nat.not_lt.mpr small, Bool.not_true, Bool.false_eq_true, or_self, false_or, if_false]
  split <;> rfl

theorem readUserinfo_of_not_mem {special : Bool} (absent : '@' ∉ text) :
    readUserinfo special text = .ok ("", "", text) := by
  have notBefore : '@' ∉ text.takeWhile (!endsAuthority special ·) := fun present =>
    absent ((List.takeWhile_sublist _).mem present)
  simp only [readUserinfo, if_neg notBefore]

theorem isHostChar_spec {c : Char} (plain : isHostChar c = true) :
    endsAuthority true c = false ∧ c ≠ ':' ∧ c ≠ '[' ∧ c ≠ ']' :=
  of_isHostChar (P := fun c => endsAuthority true c = false ∧ c ≠ ':' ∧ c ≠ '[' ∧ c ≠ ']')
    (by decide +kernel) plain

/-- A host is read up to the colon before the port. -/
theorem takeHost_append (plain : ∀ c ∈ host, isHostChar c = true) :
    takeHost true false (host ++ ':' :: text) = (host, ':' :: text) := by
  induction host with
  | nil => rfl
  | cons c rest ih =>
    rw [List.forall_mem_cons] at plain
    obtain ⟨goesOn, noColon, noOpening, noClosing⟩ := isHostChar_spec plain.1
    rw [List.cons_append, takeHost]
    simp [goesOn, noColon, noOpening, noClosing, ih plain.2]

/-- The characters of plain URLs. -/
def isPlainChar (c : Char) : Bool :=
  isHostChar c || Path.isPathChar c || c == ':'

/-- Plain URLs have neither a user name nor spacing. -/
theorem isPlainChar_spec {c : Char} (plain : isPlainChar c = true) : c ≠ '@' ∧ 0x20 < c.toNat := by
  have small : c.toNat < 128 := by
    simp only [isPlainChar, Bool.or_eq_true, beq_iff_eq] at plain
    rcases plain with (inHost | inPath) | rfl
    · exact Domain.toNat_lt_of_isHostChar inHost
    · exact Path.toNat_lt_of_isPathChar inPath
    · decide
  exact Text.forall_ascii (P := fun c => isPlainChar c = true → c ≠ '@' ∧ 0x20 < c.toNat)
    (by decide +kernel) small plain

theorem isPlainChar_of_mem (plain : IsPlainHost labels)
    (named : ∀ c ∈ text, Path.isPathChar c = true) :
    ∀ c ∈ hostText labels ++ ':' :: (Nat.toDigits 10 port ++ '/' :: text),
      isPlainChar c = true := by
  intro c present
  rw [List.mem_append, List.mem_cons, List.mem_append, List.mem_cons] at present
  rcases present with inHost | rfl | inPort | rfl | inPath
  · rw [isPlainChar, plain.hostChars c inHost, Bool.true_or, Bool.true_or]
  · rfl
  · rw [isPlainChar, Path.isPathChar_of_isNameChar (Path.isNameChar_of_mem_toDigits inPort),
      Bool.or_true, Bool.true_or]
  · rfl
  · rw [isPlainChar, named c inPath, Bool.or_true, Bool.true_or]

theorem readAuthority_hostText (plain : IsPlainHost labels) (small : port ≤ 65535)
    (named : ∀ c ∈ text, Path.isPathChar c = true) :
    readAuthority scheme true (hostText labels ++ ':' :: (Nat.toDigits 10 port ++ '/' :: text)) =
      .ok ({ host := .domain (String.ofList (hostText labels))
             port := if defaultPort? scheme = some port then none else some port },
        '/' :: text) := by
  have noInfo : '@' ∉ hostText labels ++ ':' :: (Nat.toDigits 10 port ++ '/' :: text) :=
    fun present => (isPlainChar_spec (isPlainChar_of_mem plain named '@' present)).1 rfl
  obtain ⟨c, rest, begins, -⟩ := plain.exists_letter
  have someHost : hostText labels ≠ [] := by
    rw [begins]
    exact List.cons_ne_nil c rest
  have someName : Host.domain (String.ofList (hostText labels)) ≠ .domain "" := by
    rw [begins]
    simp
  rw [readAuthority, readUserinfo_of_not_mem noInfo]
  simp only [bind, Except.bind, takeHost_append plain.hostChars, someHost, and_false, if_false,
    if_true, Host.parseDomain_hostText plain, someName, readPort_toDigits small, false_and]
  rfl

/-- What follows the colon of a web scheme is read up to the end of the path. -/
theorem readSpecial_hostText (plain : IsPlainHost labels) (small : port ≤ 65535)
    (named : ∀ c ∈ text, Path.isPathChar c = true) :
    readSpecial scheme ('/' :: '/' ::
        (hostText labels ++ ':' :: (Nat.toDigits 10 port ++ '/' :: text))) =
      .ok ⟨scheme, some
        { host := .domain (String.ofList (hostText labels))
          port := if defaultPort? scheme = some port then none else some port },
        String.ofList ('/' :: text), none, none⟩ := by
  obtain ⟨c, rest, begins, letter⟩ := plain.exists_letter
  have unslashed : ('/' :: '/' :: (hostText labels ++ ':' :: (Nat.toDigits 10 port ++
      '/' :: text))).dropWhile (Path.isSeparator true) =
        hostText labels ++ ':' :: (Nat.toDigits 10 port ++ '/' :: text) := by
    have other : Path.isSeparator true c = false :=
      of_isHostChar (P := fun c => Path.isSeparator true c = false) (by decide +kernel)
        (Domain.isHostChar_of_isLower letter)
    rw [begins, List.cons_append, List.dropWhile_cons_of_pos rfl, List.dropWhile_cons_of_pos rfl,
      List.dropWhile_cons_of_neg (by simp [other])]
  have path : splitPath ('/' :: text) = ('/' :: text, []) := by
    have whole : ∀ c ∈ '/' :: text, (c != '?' && c != '#') = true :=
      List.forall_mem_cons.mpr ⟨rfl, fun c present =>
        Path.of_isPathChar (P := fun c => (c != '?' && c != '#') = true) (by decide +kernel)
          (named c present)⟩
    rw [splitPath, List.takeWhile_eq_self_iff.mpr whole, List.dropWhile_eq_nil_iff.mpr whole]
  have inner : dropSeparator true ('/' :: text) = text := rfl
  rw [readSpecial, unslashed]
  simp only [bind, Except.bind, readAuthority_hostText plain small named, path, inner,
    Path.join_segments named]
  rfl

theorem trim_eq_self (visible : ∀ c ∈ text, 0x20 < c.toNat) : trim text = text := by
  have kept {text : List Char} (visible : ∀ c ∈ text, 0x20 < c.toNat) :
      text.dropWhile (fun c => decide (c.toNat ≤ 0x20)) = text := by
    cases text with
    | nil => rfl
    | cons c rest =>
      apply List.dropWhile_cons_of_neg
      simpa using visible c List.mem_cons_self
  rw [trim, kept visible, kept fun c present => visible c (List.mem_reverse.mp present),
    List.reverse_reverse]

theorem withoutBreaks_eq_self (visible : ∀ c ∈ text, 0x20 < c.toNat) :
    withoutBreaks text = text := by
  apply List.filter_eq_self.mpr
  intro c present
  have beyond := visible c present
  simp only [isBreak, Bool.not_eq_true', Bool.or_eq_false_iff, beq_eq_false_iff_ne]
  refine ⟨⟨?_, ?_⟩, ?_⟩ <;> rintro rfl <;> exact absurd beyond (by decide)

end Authorities

/-- A web scheme with a host name and a port. -/
structure Origin where
  secure : Bool
  labels : List String
  port : UInt16
  plain : Domain.IsPlainHost (labels.map String.toList)

namespace Origin

variable (origin : Origin)

/-- The scheme. -/
def scheme : String :=
  if origin.secure then "https" else "http"

/-- The port that the scheme implies. -/
def impliedPort : UInt16 :=
  if origin.secure then 443 else 80

/-- The host name. -/
def host : String :=
  ".".intercalate origin.labels

/-- The text with every part. -/
def written : String :=
  origin.scheme ++ "://" ++ origin.host ++ ":" ++ toString origin.port.toNat

/-- The text without the port that the scheme implies. -/
def text : String :=
  origin.scheme ++ "://" ++ origin.host ++
    if origin.port = origin.impliedPort then "" else ":" ++ toString origin.port.toNat

/-- The URL of a path at an origin. -/
def url (path : String) : Url where
  scheme := origin.scheme
  authority := some
    { host := .domain origin.host
      port := if origin.port = origin.impliedPort then none else some origin.port.toNat }
  path := path

theorem text_appendPair (path name value : String) :
    ((origin.url path).appendPair name value).text =
      origin.text ++ path ++ "?" ++ Form.pair name value := by
  have slashes : ":" ++ "//" = "://" := rfl
  have start : origin.scheme ++ ":" ++ "//" = origin.scheme ++ "://" := by
    rw [String.append_assoc, slashes]
  by_cases implied : origin.port = origin.impliedPort
  · simp [Url.text, appendPair, url, beforePath, Authority.text, Authority.userinfo, Host.text,
      Origin.text, implied, ← String.append_assoc, start]
  · simp [Url.text, appendPair, url, beforePath, Authority.text, Authority.userinfo, Host.text,
      Origin.text, implied, ← String.append_assoc, start]

theorem toList_written : origin.written.toList = origin.scheme.toList ++ ':' :: '/' :: '/' ::
    (Domain.hostText (origin.labels.map String.toList) ++
      ':' :: Nat.toDigits 10 origin.port.toNat) := by
  rw [written, host, Nat.toString_eq_ofList_toDigits]
  simp [Domain.hostText, String.toList_intercalate]

theorem ofList_hostText :
    String.ofList (Domain.hostText (origin.labels.map String.toList)) = origin.host := by
  have dot : ['.'] = ".".toList := rfl
  rw [Domain.hostText, dot, ← String.toList_intercalate, String.ofList_toList, host]

/-- The port is dropped where the scheme implies it. -/
theorem port_eq : (if defaultPort? origin.scheme = some origin.port.toNat then none
    else some origin.port.toNat) =
      if origin.port = origin.impliedPort then none else some origin.port.toNat := by
  have implied : defaultPort? origin.scheme = some origin.impliedPort.toNat := by
    rw [scheme, impliedPort]
    cases origin.secure <;> rfl
  simp only [implied, Option.some_inj, UInt16.toNat_inj, eq_comm]

theorem scheme?_append (rest : List Char) :
    scheme? (origin.scheme.toList ++ ':' :: rest) = some (origin.scheme, rest) := by
  rw [scheme]
  split <;> rfl

theorem ofScheme_scheme : Kind.ofScheme origin.scheme = .special := by
  rw [scheme]
  split <;> rfl

/-- A plain URL is read as it is written, but for a port that its scheme implies. -/
theorem parse_written {path : List Char} (named : ∀ c ∈ path, Path.isPathChar c = true) :
    parse (String.ofList (origin.written.toList ++ '/' :: path)) =
      .ok (origin.url (String.ofList ('/' :: path))) := by
  have small : origin.port.toNat ≤ 65535 := Nat.le_of_lt_succ origin.port.toNat_lt
  have letters : origin.scheme.toList.all (0x20 < ·.toNat) = true := by
    rw [scheme]
    split <;> rfl
  have visible : ∀ c ∈ origin.scheme.toList ++ ':' :: '/' :: '/' ::
      (Domain.hostText (origin.labels.map String.toList) ++
        ':' :: (Nat.toDigits 10 origin.port.toNat ++ '/' :: path)), 0x20 < c.toNat := by
    rw [List.forall_mem_append, List.forall_mem_cons, List.forall_mem_cons, List.forall_mem_cons]
    exact ⟨fun c present => of_decide_eq_true (List.all_eq_true.mp letters c present), by decide,
      by decide, by decide, fun c present =>
        (isPlainChar_spec (isPlainChar_of_mem origin.plain named c present)).2⟩
  -- nothing is trimmed and no break is dropped, so the scheme is read off the text itself
  rw [parse, String.toList_ofList, toList_written, List.append_assoc, List.cons_append,
    List.cons_append, List.cons_append, List.append_assoc, List.cons_append,
    trim_eq_self visible, withoutBreaks_eq_self visible, scheme?_append]
  simp only [ofScheme_scheme, readSpecial_hostText origin.plain small named, ofList_hostText,
    port_eq]
  rfl

end Origin

end Url

end InventoryQuery
