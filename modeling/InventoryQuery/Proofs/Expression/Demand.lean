import InventoryQuery.Proofs.Expression.Meaning
import Mathlib.Data.List.Induction
/-! # What an expression asks of its query

A connective asks to be the first one between the same parentheses, and a condition asks for a key
that can be read and for the category of the conditions before it. Whether these demands are met is
said of the expression alone: of each of them where it stands, and of all of them at once.
-/

namespace InventoryQuery

/-- A key with a type in front of its first separator, and not with separators of both kinds. -/
def ResourceKey.WellFormed (key : String) : Prop :=
  typeText key ≠ "" ∧ ¬('@' ∈ key.toList ∧ '%' ∈ key.toList)

instance (key : String) : Decidable (ResourceKey.WellFormed key) :=
  inferInstanceAs (Decidable (_ ∧ _))

/-- What is wrong with a key that is not well formed. -/
def ResourceKey.reason (key : String) : ResourceKey.Fault :=
  if '@' ∈ key.toList ∧ '%' ∈ key.toList then .twoSelectors else .missingType

namespace ResourceKey

variable {key : String}

theorem WellFormed.exists_parse (wellFormed : WellFormed key) :
    ∃ parsed, parse key = .ok parsed := by
  obtain ⟨named, single⟩ := wellFormed
  rw [← resourceType_divided single] at named
  exact ⟨divided key, parse_eq_ok_iff.mpr ⟨single, named, rfl⟩⟩

theorem parse_eq_error (malformed : ¬WellFormed key) : parse key = .error (reason key) := by
  by_cases both : '@' ∈ key.toList ∧ '%' ∈ key.toList
  · rw [parse, if_pos both, reason, if_pos both]
  · have missing : typeText key = "" := by
      by_cases missing : typeText key = ""
      · exact missing
      · exact absurd ⟨missing, both⟩ malformed
    rw [parse_eq both, resourceType_divided both, if_pos missing, reason, if_neg both]

end ResourceKey

/-- What a text asks for in one place: a connective where `first` is the first one between the same
parentheses, or a condition. -/
inductive Demand where
  | connective (first here : Connective)
  | condition (category : Category) (key : String)
  deriving DecidableEq, Repr

/-- What an atom asks for. A list of hosts goes with every query. -/
def Atom.demands : Atom → List Demand
  | .condition category key _ => [.condition category key]
  | .hosts _ => []

mutual

/-- What an item asks for, from left to right. -/
def Item.demands : Item → List Demand
  | .atom _ condition => condition.demands
  | .group first others => Item.demands first ++ Item.demandsOthers none others
termination_by structural item => item

/-- What some items and the connectives in front of them ask for, with the first connective between
the same parentheses if it stands before these items. -/
def Item.demandsOthers (first : Option Connective) : List (Connective × Item) → List Demand
  | [] => []
  | (connective, item) :: others =>
    .connective (first.getD connective) connective ::
      (Item.demands item ++ Item.demandsOthers (some (first.getD connective)) others)
termination_by structural others => others

end

/-- What an expression asks for, from left to right. -/
def Expression.demands (expression : Expression) : List Demand :=
  expression.first.demands ++ Item.demandsOthers none expression.others

mutual

/-- The connectives between the items of each pair of parentheses in an item. -/
def Item.levels : Item → List (List Connective)
  | .atom _ _ => []
  | .group first others =>
    others.map Prod.fst :: (Item.levels first ++ Item.levelsOthers others)
termination_by structural item => item

/-- The connectives between the items of each pair of parentheses in some items. -/
def Item.levelsOthers : List (Connective × Item) → List (List Connective)
  | [] => []
  | (_, item) :: others => Item.levels item ++ Item.levelsOthers others
termination_by structural others => others

end

/-- The connectives of each level of an expression, the top level included. -/
def Expression.levels (expression : Expression) : List (List Connective) :=
  (Item.group expression.first expression.others).levels

/-- All connectives of a level are the same. -/
def Connective.Uniform (level : List Connective) : Prop :=
  ∀ connective ∈ level, ∀ connective' ∈ level, connective = connective'

namespace Demand

/-- A condition can be formed: the key of a resource condition is well formed. -/
def Formed (category : Category) (key : String) : Prop :=
  category = .resource → ResourceKey.WellFormed key

instance (category : Category) (key : String) : Decidable (Formed category key) :=
  inferInstanceAs (Decidable (_ → _))

/-- The category of a condition that can be formed. -/
def category? : Demand → Option Category
  | connective _ _ => none
  | condition category key => if Formed category key then some category else none

/-- The category of the first condition that can be formed. -/
def fixedBy (demands : List Demand) : Option Category :=
  demands.findSome? category?

/-- A demand is not met where a category may be fixed. A key that is not well formed counts before
the category. -/
inductive Violated (fixed : Option Category) : Demand → QueryError → Prop
  | connective {first here : Connective} (differ : first ≠ here) :
      Violated fixed (.connective first here) (.connectiveConflict first here)
  | key {key : String} (malformed : ¬ResourceKey.WellFormed key) :
      Violated fixed (.condition .resource key) (.badResourceKey key (ResourceKey.reason key))
  | category {current category : Category} {key : String} (formed : Formed category key)
      (known : fixed = some current) (differ : current ≠ category) :
      Violated fixed (.condition category key) (.categoryConflict current category)

/-- Every demand is met where it stands. -/
def Met (demands : List Demand) : Prop :=
  ∀ before demand after, demands = before ++ demand :: after →
    ∀ refusal, ¬demand.Violated (fixedBy before) refusal

/-- The first demand that is not met is the cause of a refusal. -/
def FirstViolation (demands : List Demand) (refusal : QueryError) : Prop :=
  ∃ before demand after, demands = before ++ demand :: after ∧ Met before ∧
    demand.Violated (fixedBy before) refusal

/-- Fixes a category where one may be fixed. -/
def settle (fixed : Option Category) (category : Category) : Except QueryError (Option Category) :=
  match fixed with
  | none => .ok (some category)
  | some current =>
    if current = category then .ok fixed else .error (.categoryConflict current category)

/-- Each connective is the first one between the same parentheses. -/
def Agreed (demands : List Demand) : Prop :=
  ∀ first here, .connective first here ∈ demands → first = here

/-- The category that is fixed after a demand, or the refusal if it is not met. -/
def check (fixed : Option Category) : Demand → Except QueryError (Option Category)
  | connective first here =>
    if first = here then .ok fixed else .error (.connectiveConflict first here)
  | condition category key =>
    if Formed category key then settle fixed category
    else .error (.badResourceKey key (ResourceKey.reason key))

variable {fixed next : Option Category} {demand : Demand} {demands : List Demand}
  {refusal : QueryError}

theorem settle_eq_error_iff {category : Category} :
    settle fixed category = .error refusal ↔
      ∃ current, fixed = some current ∧ current ≠ category ∧
        refusal = .categoryConflict current category := by
  cases fixed with
  | none => simp [settle]
  | some current =>
    by_cases same : current = category
    · simp [settle, same]
    · rw [settle, if_neg same, Except.error.injEq, eq_comm]
      simp [same]

theorem settle_eq_ok {category : Category} (settled : settle fixed category = .ok next) :
    next = fixed.or (some category) := by
  cases fixed with
  | none =>
    cases settled
    rfl
  | some current =>
    rw [settle] at settled
    split at settled
    · cases settled
      rfl
    · cases settled

theorem check_eq_error_iff :
    demand.check fixed = .error refusal ↔ demand.Violated fixed refusal := by
  constructor
  · intro refused
    match demand with
    | .connective first here =>
      rw [check] at refused
      split at refused
      · cases refused
      · next differ =>
        cases refused
        exact .connective differ
    | .condition category key =>
      rw [check] at refused
      split at refused
      · next formed =>
        obtain ⟨current, known, differ, rfl⟩ := settle_eq_error_iff.mp refused
        exact .category formed known differ
      · next notFormed =>
        cases refused
        obtain ⟨rfl, malformed⟩ := Classical.not_imp.mp notFormed
        exact .key malformed
  · intro violated
    cases violated with
    | connective differ => rw [check, if_neg differ]
    | key malformed =>
      have notFormed : ¬Formed .resource _ := fun formed => malformed (formed rfl)
      rw [check, if_neg notFormed]
    | category formed known differ =>
      rw [check, if_pos formed]
      exact settle_eq_error_iff.mpr ⟨_, known, differ, rfl⟩

theorem check_eq_ok (checked : demand.check fixed = .ok next) :
    next = fixed.or demand.category? := by
  match demand with
  | .connective first here =>
    rw [check] at checked
    split at checked
    · cases checked
      exact Option.or_none.symm
    · cases checked
  | .condition category key =>
    rw [check] at checked
    split at checked
    · next formed =>
      rw [category?, if_pos formed]
      exact settle_eq_ok checked
    · cases checked

theorem check_eq_ok_iff :
    demand.check fixed = .ok next ↔
      (∀ refusal, ¬demand.Violated fixed refusal) ∧ next = fixed.or demand.category? := by
  constructor
  · intro checked
    refine ⟨fun refusal violated => ?_, check_eq_ok checked⟩
    rw [check_eq_error_iff.mpr violated] at checked
    cases checked
  · rintro ⟨met, rfl⟩
    cases checked : demand.check fixed with
    | error refusal => exact absurd (check_eq_error_iff.mp checked) (met refusal)
    | ok next => rw [check_eq_ok checked]

@[simp]
theorem fixedBy_append (demands others : List Demand) :
    fixedBy (demands ++ others) = (fixedBy demands).or (fixedBy others) :=
  List.findSome?_append

theorem fixedBy_single (demand : Demand) : fixedBy [demand] = demand.category? := by
  rw [fixedBy, List.findSome?_singleton]

theorem met_concat_iff :
    Met (demands ++ [demand]) ↔
      Met demands ∧ ∀ refusal, ¬demand.Violated (fixedBy demands) refusal := by
  constructor
  · intro met
    refine ⟨fun before earlier after same => ?_, met demands demand [] rfl⟩
    apply met before earlier (after ++ [demand])
    rw [same, List.append_assoc, List.cons_append]
  · rintro ⟨met, last⟩ before earlier after same
    rcases List.eq_nil_or_concat after with rfl | ⟨between, final, rfl⟩
    · obtain ⟨rfl, single⟩ := List.append_inj' same rfl
      cases single
      exact last
    · rw [List.concat_eq_append, ← List.cons_append, ← List.append_assoc] at same
      obtain ⟨rfl, _⟩ := List.append_inj' same rfl
      exact met before earlier between rfl

theorem foldlM_single (fixed : Option Category) (demand : Demand) :
    [demand].foldlM check fixed = demand.check fixed := by
  rw [List.foldlM_cons]
  cases demand.check fixed <;> rfl

theorem foldlM_concat (fixed : Option Category) (demands : List Demand) (demand : Demand) :
    (demands ++ [demand]).foldlM check fixed =
      (demands.foldlM check fixed).bind fun next => demand.check next := by
  simp only [List.foldlM_append, foldlM_single]
  rfl

/-- Demands are checked to the end if all are met. -/
theorem foldlM_check_eq_ok_iff :
    demands.foldlM check none = .ok next ↔ Met demands ∧ next = fixedBy demands := by
  induction demands using List.reverseRecOn generalizing next with
  | nil =>
    have met : Met [] := fun before demand after same => by simp at same
    simp [met, fixedBy, pure, Except.pure, eq_comm]
  | append_singleton demands demand ih =>
    rw [foldlM_concat, met_concat_iff, fixedBy_append, fixedBy_single]
    constructor
    · intro checked
      cases sofar : demands.foldlM check none with
      | error refusal =>
        rw [sofar] at checked
        cases checked
      | ok between =>
        rw [sofar] at checked
        obtain ⟨met, rfl⟩ := ih.mp sofar
        obtain ⟨last, rfl⟩ := check_eq_ok_iff.mp checked
        exact ⟨⟨met, last⟩, rfl⟩
    · rintro ⟨⟨met, last⟩, rfl⟩
      rw [ih.mpr ⟨met, rfl⟩]
      exact check_eq_ok_iff.mpr ⟨last, rfl⟩

/-- Demands are checked up to the first that is not met. -/
theorem foldlM_check_eq_error_iff :
    demands.foldlM check none = .error refusal ↔ FirstViolation demands refusal := by
  constructor
  · intro refused
    induction demands using List.reverseRecOn with
    | nil => cases refused
    | append_singleton demands demand ih =>
      rw [foldlM_concat] at refused
      cases sofar : demands.foldlM check none with
      | error refusal' =>
        rw [sofar] at refused
        cases refused
        obtain ⟨before, earlier, after, rfl, met, violated⟩ := ih sofar
        refine ⟨before, earlier, after ++ [demand], ?_, met, violated⟩
        rw [List.append_assoc, List.cons_append]
      | ok between =>
        rw [sofar] at refused
        obtain ⟨met, rfl⟩ := foldlM_check_eq_ok_iff.mp sofar
        exact ⟨demands, demand, [], rfl, met, check_eq_error_iff.mp refused⟩
  · rintro ⟨before, demand, after, rfl, met, violated⟩
    rw [List.foldlM_append, foldlM_check_eq_ok_iff.mpr ⟨met, rfl⟩]
    change ((demand :: after).foldlM check (fixedBy before)) = _
    rw [List.foldlM_cons, check_eq_error_iff.mpr violated]
    rfl

/-- Where all demands are met the category is that of every condition. -/
theorem Met.fixedBy_eq (met : Met demands) {category : Category} {key : String}
    (present : .condition category key ∈ demands) : fixedBy demands = some category := by
  obtain ⟨before, after, rfl⟩ := List.append_of_mem present
  have here := met before (.condition category key) after rfl
  have formed : Formed category key := by
    by_cases formed : Formed category key
    · exact formed
    · obtain ⟨rfl, malformed⟩ := Classical.not_imp.mp formed
      exact absurd (.key malformed) (here _)
  rw [fixedBy_append, fixedBy, fixedBy, List.findSome?_cons, category?, if_pos formed]
  cases known : before.findSome? category? with
  | none => rfl
  | some current =>
    by_cases same : current = category
    · rw [same, Option.some_or]
    · exact absurd (.category formed known same) (here _)

theorem exists_condition_of_fixedBy {category : Category}
    (known : fixedBy demands = some category) : ∃ key, .condition category key ∈ demands := by
  obtain ⟨demand, present, found⟩ := List.exists_of_findSome?_eq_some known
  match demand with
  | .connective _ _ => cases found
  | .condition category' key =>
    rw [category?] at found
    split at found
    · cases found
      exact ⟨key, present⟩
    · cases found

/-- All demands are met if each connective is the first one of its level, each resource key is well
formed and all conditions are of one category. -/
theorem met_iff :
    Met demands ↔
      Agreed demands ∧
        (∀ key, .condition .resource key ∈ demands → ResourceKey.WellFormed key) ∧
        ¬((∃ key, .condition .fact key ∈ demands) ∧
          ∃ key, .condition .resource key ∈ demands) := by
  constructor
  · intro met
    refine ⟨fun first here present => ?_, fun key present => ?_, ?_⟩
    · obtain ⟨before, after, same⟩ := List.append_of_mem present
      by_cases agree : first = here
      · exact agree
      · exact absurd (.connective agree) (met before _ after same _)
    · obtain ⟨before, after, same⟩ := List.append_of_mem present
      by_cases wellFormed : ResourceKey.WellFormed key
      · exact wellFormed
      · exact absurd (.key wellFormed) (met before _ after same _)
    · rintro ⟨⟨_, aboutFacts⟩, _, aboutResources⟩
      have both := (met.fixedBy_eq aboutFacts).symm.trans (met.fixedBy_eq aboutResources)
      cases both
  · rintro ⟨connectives, keys, notBoth⟩ before demand after rfl refusal violated
    have present : demand ∈ before ++ demand :: after :=
      List.mem_append_right before List.mem_cons_self
    cases violated with
    | connective differ => exact differ (connectives _ _ present)
    | key malformed => exact malformed (keys _ present)
    | @category current category key _ known differ =>
      obtain ⟨key', earlier⟩ := exists_condition_of_fixedBy known
      have earlier := List.mem_append_left (.condition category key :: after) earlier
      match current, category with
      | .fact, .fact => exact differ rfl
      | .fact, .resource => exact notBoth ⟨⟨key', earlier⟩, key, present⟩
      | .resource, .fact => exact notBoth ⟨⟨key, present⟩, key', earlier⟩
      | .resource, .resource => exact differ rfl

theorem agreed_append_iff {others : List Demand} :
    Agreed (demands ++ others) ↔ Agreed demands ∧ Agreed others := by
  simp only [Agreed, List.mem_append, or_imp, forall_and]

theorem agreed_cons_iff {first here : Connective} :
    Agreed (.connective first here :: demands) ↔ first = here ∧ Agreed demands := by
  constructor
  · intro agreed
    exact ⟨agreed first here List.mem_cons_self,
      fun first' here' present => agreed first' here' (List.mem_cons_of_mem _ present)⟩
  · rintro ⟨rfl, agreed⟩ first' here' present
    rcases List.mem_cons.mp present with same | later
    · cases same
      rfl
    · exact agreed first' here' later

end Demand

namespace Connective

theorem uniform_cons_cons_iff {first here : Connective} {level : List Connective} :
    Uniform (first :: here :: level) ↔ first = here ∧ Uniform (first :: level) := by
  constructor
  · intro uniform
    refine ⟨uniform first (by simp) here (by simp), fun c present c' present' => ?_⟩
    apply uniform c _ c' _
    · rcases List.mem_cons.mp present with rfl | later <;> simp [*]
    · rcases List.mem_cons.mp present' with rfl | later <;> simp [*]
  · rintro ⟨rfl, uniform⟩ c present c' present'
    apply uniform c _ c' _
    · simpa using present
    · simpa using present'

theorem uniform_level_iff (first : Option Connective) (here : Connective)
    (level : List Connective) :
    Uniform (first.toList ++ here :: level) ↔
      first.getD here = here ∧ Uniform (first.getD here :: level) := by
  cases first with
  | none => simp
  | some first => exact uniform_cons_cons_iff

end Connective

open Connective (Uniform)
open Demand (Agreed agreed_append_iff agreed_cons_iff)

mutual

/-- The connectives of an item agree with the first ones if each of its levels is uniform. -/
theorem Item.agreed_demands_iff : (item : Item) →
    (Agreed item.demands ↔ ∀ level ∈ item.levels, Uniform level)
  | .atom negated condition => by
    cases condition <;> simp [Item.demands, Item.levels, Atom.demands, Agreed]
  | .group first others => by
    rw [Item.demands, Item.levels, agreed_append_iff, Item.agreed_demands_iff first,
      Item.agreed_demandsOthers_iff none others, List.forall_mem_cons, List.forall_mem_append]
    exact and_left_comm

theorem Item.agreed_demandsOthers_iff (start : Option Connective) :
    (others : List (Connective × Item)) →
      (Agreed (Item.demandsOthers start others) ↔
        Uniform (start.toList ++ others.map Prod.fst) ∧
          ∀ level ∈ Item.levelsOthers others, Uniform level)
  | [] => by
    cases start <;> simp [Item.demandsOthers, Item.levelsOthers, Uniform, Agreed]
  | (connective, item) :: others => by
    rw [Item.demandsOthers, Item.levelsOthers, agreed_cons_iff, agreed_append_iff,
      Item.agreed_demands_iff item, Item.agreed_demandsOthers_iff _ others, List.map_cons,
      Connective.uniform_level_iff, List.forall_mem_append, Option.toList_some,
      List.singleton_append, and_assoc, and_left_comm (a := ∀ level ∈ item.levels, Uniform level)]

end

theorem Expression.agreed_demands_iff (expression : Expression) :
    Agreed expression.demands ↔ ∀ level ∈ expression.levels, Uniform level := by
  have grouped := (Item.group expression.first expression.others).agreed_demands_iff
  rw [Item.demands] at grouped
  exact grouped

end InventoryQuery
