import InventoryQuery.Expression.Basic
import InventoryQuery.Text.Blank
/-! # The grammar of the query text

The grammar says what a stretch of text can be read as, and nothing about how a reader finds the
stretch: a word is any run of characters of its class, not the longest one, and spacing may be
divided in any way. Each rule relates a text, what follows the stretch in it, and what the stretch
stands for. What may stand in a key is a parameter.
-/

namespace InventoryQuery.Grammar

open Text (isBlank)

/-- A run of spaces, tabs, carriage returns and line feeds. -/
def Spacing (run : List Char) : Prop :=
  ∀ c ∈ run, c = ' ' ∨ c = '\t' ∨ c = '\r' ∨ c = '\n'

/-- A word is a keyword in either case of each of its letters. -/
def Spells (word : List Char) (keyword : String) : Prop :=
  word.map Char.toLower = keyword.toList

/-- The characters of a word: none that is blank, and none of the excluded ones. -/
def VisibleExcept (excluded : List Char) (c : Char) : Prop :=
  isBlank c = false ∧ c ∉ excluded

/-- The characters of a key. -/
def KeyChar : Char → Prop :=
  VisibleExcept ['=', '<', '>', '~', '(', ')', '\x22', ',']

/-- The characters of a host specification. -/
def HostChar : Char → Prop :=
  VisibleExcept ['(', ')', ',', ':', '=', '<', '>', '~', '\x22']

/-- The characters of a value without quotes. -/
def ValueChar : Char → Prop :=
  VisibleExcept ['(', ')']

/-- A run of characters of a class, at least one. -/
structure Word (kind : Char → Prop) (text rest : List Char) (word : String) : Prop where
  split : text = word.toList ++ rest
  nonempty : word.toList ≠ []
  all : ∀ c ∈ word.toList, kind c

/-- A host specification: a word that is no keyword. -/
def Host (text rest : List Char) (name : String) : Prop :=
  Word HostChar text rest name ∧ ∀ keyword ∈ ["and", "or", "not"], ¬Spells name.toList keyword

/-- Hosts with commas between them. -/
inductive Hosts : List Char → List Char → List String → Prop
  | one {text rest : List Char} {name : String} (host : Host text rest name) :
      Hosts text rest [name]
  | more {text others rest : List Char} {name : String} {names : List String}
      (host : Host text (',' :: others) name) (tail : Hosts others rest names) :
      Hosts text rest (name :: names)

/-- A value after a comparison and a gap: between quotes, or a word. A word may begin with a quote
if no other quote follows in the text, and with an equals sign if this cannot belong to the
comparison. -/
inductive Value (comparison : Comparison) (gap : List Char) :
    List Char → List Char → String → Prop
  | quoted {body rest : List Char} (closed : '\x22' ∉ body) :
      Value comparison gap ('\x22' :: body ++ '\x22' :: rest) rest (String.ofList body)
  | bare {text rest : List Char} {word : String} (run : Word ValueChar text rest word)
      (noQuote : text.head? = some '\x22' → '\x22' ∉ text.tail)
      (noEquals : text.head? = some '=' → comparison = .greater ∨ comparison = .less → gap ≠ []) :
      Value comparison gap text rest word

/-- A comparison and its value, with spacing before each. -/
inductive Test : List Char → List Char → Comparison × String → Prop
  | intro {gap gap' text rest : List Char} {comparison : Comparison} {value : String}
      (spacing : Spacing gap) (spacing' : Spacing gap')
      (valued : Value comparison gap' text rest value) :
      Test (gap ++ (comparison.text.toList ++ (gap' ++ text))) rest (comparison, value)

/-- A list of hosts, a resource key alone, or a key of either category with a test. -/
inductive Atom (keyChar : Char → Prop) : List Char → List Char → InventoryQuery.Atom → Prop
  | hosts {text rest : List Char} {names : List String} (listed : Hosts text rest names) :
      Atom keyChar text rest (.hosts names)
  | resource {text rest : List Char} {key : String} (named : Word keyChar text rest key) :
      Atom keyChar ('R' :: ':' :: text) rest (.condition .resource key none)
  | tested {text middle rest : List Char} {category : Category} {key : String}
      {test : Comparison × String} (named : Word keyChar text middle key)
      (compared : Test middle rest test) :
      Atom keyChar (category.letter.toList ++ ':' :: text) rest
        (.condition category key (some test))

/-- What the rules with a recursion are about: an item, or the items after the first one, each with
the connective in front of it. -/
inductive Phrase where
  | item (item : Item)
  | others (others : List (Connective × Item))

/-- An item is an atom, a negated atom, or items in parentheses. -/
inductive Derives (keyChar : Char → Prop) : Phrase → List Char → List Char → Prop
  | atom {text rest : List Char} {atom : InventoryQuery.Atom}
      (plain : Atom keyChar text rest atom) :
      Derives keyChar (.item (.atom false atom)) text rest
  | negated {word gap text rest : List Char} {atom : InventoryQuery.Atom}
      (spelled : Spells word "not") (spacing : Spacing gap) (apart : gap ≠ [])
      (plain : Atom keyChar text rest atom) :
      Derives keyChar (.item (.atom true atom)) (word ++ (gap ++ text)) rest
  | group {gap gap' text middle rest : List Char} {first : Item}
      {others : List (Connective × Item)} (spacing : Spacing gap)
      (head : Derives keyChar (.item first) text middle)
      (tail : Derives keyChar (.others others) middle (gap' ++ ')' :: rest))
      (spacing' : Spacing gap') :
      Derives keyChar (.item (.group first others)) ('(' :: (gap ++ text)) rest
  | done {rest : List Char} : Derives keyChar (.others []) rest rest
  | next {gap word gap' text middle rest : List Char} {connective : Connective} {item : Item}
      {others : List (Connective × Item)} (spacing : Spacing gap) (apart : gap ≠ [])
      (spelled : Spells word connective.text) (spacing' : Spacing gap') (apart' : gap' ≠ [])
      (head : Derives keyChar (.item item) text middle)
      (tail : Derives keyChar (.others others) middle rest) :
      Derives keyChar (.others ((connective, item) :: others))
        (gap ++ (word ++ (gap' ++ text))) rest

/-- A whole text is items, with spacing around them. -/
def Accepts (keyChar : Char → Prop) (text : String) (expression : Expression) : Prop :=
  ∃ gap start middle gap', text.toList = gap ++ start ∧ Spacing gap ∧
    Derives keyChar (.item expression.first) start middle ∧
    Derives keyChar (.others expression.others) middle gap' ∧ Spacing gap'

end InventoryQuery.Grammar
