import PartSearch.Text.Blank

/-!
Fee tiers of parts: which of them cost an assembly fee, restrictions to some of them, and counts
of parts by tier.
-/

namespace PartSearch

/-- Assembly-fee class of a part; extended parts cost a fee. -/
inductive FeeTier where
  | basic
  | preferred
  | extended
deriving DecidableEq, Repr

namespace FeeTier

def all : List FeeTier := [basic, preferred, extended]

def name : FeeTier → String
  | basic => "basic"
  | preferred => "preferred"
  | extended => "extended"

def code : FeeTier → String
  | basic => "b"
  | preferred => "p"
  | extended => "e"

def isNoFee : FeeTier → Bool
  | extended => false
  | _ => true

/-- Place of the tier when parts without a fee are preferred. -/
def rank : FeeTier → Nat
  | basic => 0
  | preferred => 1
  | extended => 2

end FeeTier

inductive TierFilter where
  | basic
  | preferred
  | extended
  /-- Basic or preferred. -/
  | noFee
deriving DecidableEq, Repr

namespace TierFilter

def all : List TierFilter := [basic, preferred, extended, noFee]

def name : TierFilter → String
  | basic => "basic"
  | preferred => "preferred"
  | extended => "extended"
  | noFee => "no_fee"

/-- The restriction that a person's word for it means, in any case. -/
def ofWord? (text : String) : Option TierFilter :=
  match String.ofList (Text.asciiLower (Text.trim text.toList)) with
  | "basic" | "b" => some basic
  | "preferred" | "p" => some preferred
  | "extended" | "e" => some extended
  | "no_fee" | "no-fee" | "nofee" => some noFee
  | _ => none

def tiers : TierFilter → List FeeTier
  | basic => [.basic]
  | preferred => [.preferred]
  | extended => [.extended]
  | noFee => [.basic, .preferred]

def accepts (filter : TierFilter) (tier : FeeTier) : Bool := filter.tiers.contains tier

end TierFilter

structure TierCounts where
  basic : Nat := 0
  preferred : Nat := 0
  extended : Nat := 0
deriving DecidableEq, Repr

namespace TierCounts

def ofTiers (tiers : List FeeTier) : TierCounts where
  basic := tiers.count .basic
  preferred := tiers.count .preferred
  extended := tiers.count .extended

def count (c : TierCounts) : FeeTier → Nat
  | .basic => c.basic
  | .preferred => c.preferred
  | .extended => c.extended

def total (c : TierCounts) : Nat := c.basic + c.preferred + c.extended

def noFeeAvailable (c : TierCounts) : Bool := 0 < c.basic || 0 < c.preferred

end TierCounts

end PartSearch
