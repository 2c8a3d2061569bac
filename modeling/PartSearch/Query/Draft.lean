import PartSearch.Reading.Connector
import PartSearch.Reading.Descriptor
import PartSearch.Reading.Kind
import PartSearch.Reading.Value

/-!
A query as far as it has been read: what is known of the part, the text that nothing has claimed
yet, and a record of what was recognized.
-/

namespace PartSearch

structure FoundValue where
  raw : String
  quantity : Quantity
  normalized : String
deriving DecidableEq, Repr

/-- What was recognized in a query, for people who want to know how it was read. -/
structure Findings where
  modelNumber : Option String := none
  package : Option String := none
  mounting : Option Mounting := none
  connector : Option Connector := none
  keyword : Option String := none
  /-- The subcategory that words of the query name. -/
  subcategory : Option String := none
  /-- The subcategory that quantities suggest. -/
  inferred : Option String := none
  values : List FoundValue := []
  packageFromDimensions : Option String := none
  /-- Phrases and the decisions that they led to. -/
  notes : List String := []
deriving DecidableEq, Repr

/-- What is known of a query between two steps of reading it. -/
structure Draft (ν : Type) where
  original : String
  remaining : String
  modelNumber : Option String := none
  package : Option String := none
  /-- The subcategory that the designator of a package suggests. -/
  suggested : Option String := none
  mounting : Option Mounting := none
  connector : Option Connector := none
  channel : Option Channel := none
  keyword : Option Keyword := none
  subcategory : Option String := none
  /-- A connector is asked for, so its values are words to look for. -/
  forConnector : Bool := false
  /-- A ferrite bead is asked for, so its resistances are impedances. -/
  forFerrite : Bool := false
  values : List (SpecValue ν) := []
  descriptors : List Descriptor := []
  filters : List SpecFilter := []
  /-- Words that are looked for besides those left over. -/
  extraWords : List String := []
  freeText : String := ""
  findings : Findings := {}

namespace Draft

variable {ν : Type}

def ofQuery (text : String) : Draft ν := { original := text, remaining := text }

def note (d : Draft ν) (text : String) : Draft ν :=
  { d with findings := { d.findings with notes := d.findings.notes ++ [text] } }

def subcategoryMentions (d : Draft ν) (word : String) : Bool :=
  (d.subcategory.map fun s => containsText s word).getD false

end Draft

end PartSearch
