import PartSearch.Query.Draft
import PartSearch.Query.Residue
import PartSearch.Reading.Model
import PartSearch.Reading.Package

/-!
The stages in which a query is read. Each one claims what it recognizes in the text that is left
and hands the rest on, so that no part of a query is read twice. Part numbers and packages come
before values, which their digits would be taken for; the kind of part comes before values and
filters, whose meaning depends on it.
-/

namespace PartSearch

namespace Draft

variable {ν : Type}

def readModel (d : Draft ν) : Draft ν :=
  match Model.extract d.remaining with
  | (some model, rest) =>
    { d with
      remaining := rest
      modelNumber := some model
      findings := { d.findings with modelNumber := some model } }
  | (none, _) => d

def readPackage (d : Draft ν) : Draft ν :=
  let (hit, rest) := PackageHit.extract d.remaining
  { d with
    remaining := rest
    package := hit.package
    suggested := hit.suggested
    findings := { d.findings with package := hit.package } }

def readMounting (d : Draft ν) : Draft ν :=
  match Mounting.extract d.remaining with
  | (some mounting, rest) =>
    { d with
      remaining := rest
      mounting := some mounting
      findings := { d.findings with mounting := some mounting } }
  | (none, _) => d

/-- A family of connectors, which is looked for under the name that descriptions use. -/
def readConnector (d : Draft ν) : Draft ν :=
  match Connector.extract d.remaining with
  | (some connector, rest) =>
    { d with
      remaining := rest
      connector := some connector
      forConnector := true
      extraWords := d.extraWords ++ [connector.searchTerm]
      findings := { d.findings with connector := some connector } }
  | (none, _) => d

/-! ### The kind of part -/

/-- Keywords with one of these words name a connector. -/
def connectorWords : List String :=
  ["header", "connector", "terminal", "socket", "plug", "receptacle"]

def addFilter (d : Draft ν) (name value : String) : Draft ν :=
  { d with filters := d.filters ++ [{ name, operator := .eq, value }] }

/-- A word for the polarity of a transistor, which is a filter as well. -/
def readChannel (d : Draft ν) : Draft ν :=
  match Channel.extract d.remaining with
  | (some channel, rest) =>
    ({ d with remaining := rest, channel := some channel }.addFilter "Type" channel.type).note
      (channel.type ++ " (channel word)")
  | (none, _) => d

def readKeyword (d : Draft ν) : Draft ν :=
  match Keyword.extract d.remaining with
  | (some keyword, rest) =>
    { d with
      remaining := rest
      keyword := some keyword
      forConnector := d.forConnector || connectorWords.any (containsText (lowercase keyword.word))
      findings := { d.findings with keyword := some keyword.word } }
  | (none, _) => d

/-- The subcategory that the words read so far name, the most specific word first. -/
def namedSubcategory (d : Draft ν) : Option String :=
  d.keyword.map (·.subcategory) <|> d.channel.map (·.subcategory) <|>
    d.connector.map (·.subcategory) <|> d.suggested

/-- A wording that turns electrolytic capacitors into leaded ones. -/
def redirectLeaded (d : Draft ν) (subcategory : String) : Draft ν × String :=
  match PartKind.leadedElectrolytic? subcategory d.remaining d.mounting with
  | some (leaded, rest) =>
    ({ d with remaining := rest }.note "radial/through-hole (leaded)", leaded)
  | none => (d, subcategory)

/-- The draft with the subcategory that words of the query name, and what follows from it. -/
def withSubcategory (d : Draft ν) (subcategory : String) : Draft ν :=
  { d with
    subcategory := some subcategory
    forConnector := d.forConnector || Connector.isSubcategory subcategory
    forFerrite := d.forFerrite || containsText subcategory "ferrite"
    findings := { d.findings with subcategory := some subcategory } }

def readKind (d : Draft ν) : Draft ν :=
  let d := d.readChannel.readKeyword
  match d.namedSubcategory with
  | some subcategory =>
    let (d, subcategory) := d.redirectLeaded subcategory
    d.withSubcategory subcategory
  | none => d

/-! ### Values -/

variable [Number ν]

/-- The draft with one more value, which was a bare number. -/
def addCount (d : Draft ν) (q : Quantity) (unit : String) (found : Nat × String) : Draft ν :=
  let (n, rest) := found
  let digits := toString n
  let value : SpecValue ν :=
    { raw := digits, value := Number.whole n, quantity := q, normalized := digits ++ unit }
  { d with remaining := rest, values := d.values ++ [value] }

/-- The largest number that is taken for an impedance in ohms. -/
def maxOhms : Nat := Nat.pow 2 32 - 1

/-- For ferrite beads resistances are impedances, and so is a bare number. -/
def readImpedance (d : Draft ν) : Draft ν :=
  if d.forFerrite then
    let values := d.values.map fun v =>
      if v.quantity = .resistance then { v with quantity := .impedance } else v
    let d := { d with values }
    match Residue.takeInteger? maxOhms d.remaining with
    | some found => d.addCount .impedance "Ohm" found
    | none => d
  else d

/-- The largest bare number that is taken for a number of pins. -/
def maxBarePins : Nat := 200

/-- For connectors a bare number is the number of pins, if that is not given. -/
def readBarePins (d : Draft ν) : Draft ν :=
  if d.forConnector && d.values.all fun v => v.quantity ≠ .pinCount then
    match Residue.takeInteger? maxBarePins d.remaining with
    | some found => d.addCount .pinCount "P" found
    | none => d
  else d

def readUnits (d : Draft ν) : Draft ν :=
  let (values, rest) := SpecValue.extract ν d.remaining
  { d with remaining := rest, values }

def foundValues (d : Draft ν) : List FoundValue :=
  d.values.map fun v => { raw := v.raw, quantity := v.quantity, normalized := v.normalized }

def readValues (d : Draft ν) : Draft ν :=
  let d := d.readUnits.readImpedance.readBarePins
  { d with findings := { d.findings with values := d.foundValues } }

omit [Number ν]

/-- The subcategory that quantities suggest, when no word named one. -/
def inferSubcategory (d : Draft ν) : Draft ν :=
  match d.subcategory, PartKind.suggestedBy? (d.values.map (·.quantity)) with
  | none, some inferred =>
    { d with
      subcategory := some inferred
      findings := { d.findings with inferred := some inferred } }
  | _, _ => d

/-- The subcategory that quantities suggest, and a wording that turns resistors into
potentiometers. -/
def readSubcategory (d : Draft ν) : Draft ν :=
  let d := d.inferSubcategory
  match PartKind.potentiometer? d.subcategory d.remaining with
  | some (subcategory, rest) =>
    { d with
      subcategory := some subcategory
      remaining := rest
      findings := { d.findings with subcategory := some subcategory } }.note
        "potentiometer/trimmer"
  | none => d

/-! ### Filters -/

def readDescriptors (d : Draft ν) : Draft ν :=
  let (found, rest) := Descriptor.extract d.remaining
  if found.isEmpty then d else
    found.foldl (fun d f => d.note f.phrase) { d with remaining := rest, descriptors := found }

def isPackageSize (d : Draft ν) (v : SpecValue ν) : Bool :=
  v.quantity = .dimensions && (d.subcategory.map PartKind.hasDimensionPackages).getD false

/-- Dimensions that name a package do so if nothing else does. -/
def usePackageSize (d : Draft ν) : Draft ν :=
  match d.package, d.values.find? d.isPackageSize with
  | none, some v =>
    let package := some ("SMD," ++ v.normalized)
    { d with package, findings := { d.findings with packageFromDimensions := package } }
  | _, _ => d

def filterOf (d : Draft ν) (v : SpecValue ν) : SpecFilter where
  name := Attribute.ofQuantity v.quantity d.subcategory (d.keyword.map (·.word))
  operator := Attribute.operatorOf v.quantity
  value := v.normalized

/-- Values become filters. Listings of connectors have few attributes, so their values become words
to look for. -/
def useValues (d : Draft ν) : Draft ν :=
  let values := d.values.filter fun v => !d.isPackageSize v
  if d.forConnector then { d with extraWords := d.extraWords ++ values.map (·.normalized) }
  else { d with filters := d.filters ++ values.map d.filterOf }

/-- Phrases become filters, unless the same filter is there. -/
def useDescriptors (d : Draft ν) : Draft ν :=
  { d with
    filters := d.descriptors.foldl (fun filters found =>
      if filters.contains found.filter then filters else filters ++ [found.filter]) d.filters }

def namesChannel (type : String) : Bool := "-Channel".toList.isSuffixOf type.toList

/-- The polarity of a field-effect transistor, from a word for it or else from a filter. -/
def channelType? (d : Draft ν) : Option String :=
  (d.channel.map (·.type) <|>
    (d.filters.find? fun f => f.name == "Type" && namesChannel f.value).map (·.value)).filter
    namesChannel

/-- For field-effect transistors "dual" is the number of channels. -/
def useDual (d : Draft ν) : Draft ν :=
  let cs := d.remaining.toList
  if (d.subcategory.map PartKind.hasChannels).getD false && Residue.dualWord.occurs cs then
    let d := { d with remaining := String.ofList (Residue.dualWord.removeWords cs) }
    match d.channelType? with
    | some type =>
      (d.addFilter "Number" ("2 " ++ type)).note ("dual (Number=2 " ++ type ++ ")")
    | none => d
  else d

def forHeader (d : Draft ν) : Bool :=
  (d.keyword.map fun k => containsText (lowercase k.word) "header").getD false ||
    d.subcategoryMentions "header"

/-- For headers the number of rows is a part of the number of pins. -/
def useRows (d : Draft ν) : Draft ν :=
  match if d.forHeader then Residue.takeRows? d.remaining else none with
  | some (rows, rest) =>
    { d with remaining := rest, extraWords := d.extraWords.map (Residue.inRows rows) }
  | none => d

def makeFilters (d : Draft ν) : Draft ν :=
  d.usePackageSize.useValues.useDescriptors.useDual.useRows

/-! ### Free text -/

/-- The text that is left, without scraps, followed by the extra words. -/
def cleanUp (d : Draft ν) : Draft ν :=
  let noise := if d.subcategoryMentions "connector" || d.connector.isSome then Connector.noiseWords
    else []
  let cleaned := Residue.clean (removeNoise noise d.remaining)
  { d with
    remaining := d.extraWords.foldl (fun text word =>
      if text.isEmpty then word else text ++ " " ++ word) cleaned }

/-- The text to look for: the part number, or the text that is left. A text too short to look for
is dropped if anything else is known, and otherwise the whole query counts. -/
def chooseFreeText (d : Draft ν) : Draft ν :=
  let text := match d.modelNumber with
    | some model => model
    | none =>
      if 2 ≤ d.remaining.length then d.remaining
      else if !d.filters.isEmpty || d.subcategory.isSome then ""
      else d.original
  { d with freeText := text }

end Draft

structure Stage (ν : Type) where
  name : String
  run : Draft ν → Draft ν

namespace Stage

variable {ν : Type} [Number ν]

def all : List (Stage ν) := [
  ⟨"model_number", Draft.readModel⟩,
  ⟨"package", Draft.readPackage⟩,
  ⟨"mounting_type", Draft.readMounting⟩,
  ⟨"connector_series", Draft.readConnector⟩,
  ⟨"component_type", Draft.readKind⟩,
  ⟨"values", Draft.readValues⟩,
  ⟨"subcategory_inference", Draft.readSubcategory⟩,
  ⟨"semantic", Draft.readDescriptors⟩,
  ⟨"spec_filters", Draft.makeFilters⟩,
  ⟨"cleanup", Draft.cleanUp⟩,
  ⟨"free_text", Draft.chooseFreeText⟩]

end Stage

end PartSearch
