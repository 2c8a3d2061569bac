import PartSearch.Tolerance
import PartSearch.Text.Blank

/-!
What a replacement has to share with the part that it replaces, by subcategory.
-/

namespace PartSearch

/-- What the replacements of a part have to agree on. -/
structure ReplacementRule where
  /-- The attribute that makes the parts the same. -/
  primary : String
  equal : List String := []
  /-- Ratings that may only get better. -/
  ratings : List (String × Direction) := []
deriving DecidableEq, Repr

def ReplacementRule.attributes (rule : ReplacementRule) : List String :=
  rule.primary :: rule.equal ++ rule.ratings.map (·.1)

/-- Rules by the lowercase names of subcategories; no name has two rules. -/
structure RuleBook where
  entries : List (String × ReplacementRule) := []
deriving DecidableEq, Repr

namespace RuleBook

/-- The book with a rule for a subcategory, in place of an older one. -/
def insert (book : RuleBook) (subcategory : String) (rule : ReplacementRule) : RuleBook :=
  let name := lowercase subcategory
  ⟨(name, rule) :: book.entries.filter (·.1 != name)⟩

/-- The rule for a subcategory, whose name may be in any case. -/
def get? (book : RuleBook) (subcategory : String) : Option ReplacementRule :=
  book.entries.lookup (lowercase subcategory)

def size (book : RuleBook) : Nat := book.entries.length

/-- The rules of a list, the later of two for one subcategory. -/
def ofList (rules : List (String × ReplacementRule)) : RuleBook :=
  rules.foldl (fun book (name, rule) => book.insert name rule) {}

end RuleBook

end PartSearch
