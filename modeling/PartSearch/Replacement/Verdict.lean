import PartSearch.Attribute.Format
import PartSearch.Catalog.Row
import PartSearch.Replacement.Rule

/-!
Is one part a replacement for another? Attributes are compared one by one. A value that cannot be
compared never rules a part out, but it is on record.
-/

namespace PartSearch

inductive ValueMatch where
  | same
  | different
  /-- Only one of them can be read. -/
  | unknown
deriving DecidableEq, Repr

namespace ValueMatch

variable {ν : Type} [Number ν]

def ofTexts (a b : String) : ValueMatch :=
  if lowercase (trimmed a) == lowercase (trimmed b) then same else different

/-- Comparison of values that were read; where neither could be, of their texts. -/
def ofReadings (t : Tolerance ν) (a b : String) : Option ν → Option ν → ValueMatch
  | some x, some y => if t.alternativeMatches x y then same else different
  | none, none => ofTexts a b
  | _, _ => unknown

def ofValues (t : Tolerance ν) (name a b : String) : ValueMatch :=
  match AttributeFormat.ofAttribute? name with
  | some .impedance => if Impedance.isMatch t a b then same else different
  | some format =>
    if AttributeFormat.isTextual name then ofTexts a b
    else ofReadings t a b (format.readScalar? a) (format.readScalar? b)
  | none => ofTexts a b

end ValueMatch

/-- What looking at one attribute of two parts led to. -/
inductive AttributeCheck where
  | verified
  | unverified
  /-- There is nothing to compare. -/
  | absent
  | failed
deriving DecidableEq, Repr

namespace AttributeCheck

variable {ν : Type} [Number ν]

def ofMatch : ValueMatch → AttributeCheck
  | .same => verified
  | .different => failed
  | .unknown => unverified

/-- The primary attribute counts where both parts have it. -/
def primary (t : Tolerance ν) (original candidate : Part ν) (name : String) : AttributeCheck :=
  match original.value? name, candidate.value? name with
  | some a, some b => ofMatch (ValueMatch.ofValues t name a b)
  | _, _ => absent

def equal (t : Tolerance ν) (original candidate : Part ν) (name : String) : AttributeCheck :=
  match original.value? name, candidate.value? name with
  | some a, some b => ofMatch (ValueMatch.ofValues t name a b)
  | none, none => absent
  | _, _ => unverified

def readBoth? (name a b : String) : Option (ν × ν) := do
  let format ← AttributeFormat.ofAttribute? name
  let x ← format.readScalar? a
  let y ← format.readScalar? b
  return (x, y)

/-- A rating that may only get better. -/
def rating (t : Tolerance ν) (original candidate : Part ν) (name : String)
    (direction : Direction) : AttributeCheck :=
  match original.value? name, candidate.value? name with
  | some a, some b =>
    match (readBoth? name a b : Option (ν × ν)) with
    | some (x, y) => if t.sameOrBetter direction x y then verified else failed
    | none => unverified
  | none, none => absent
  | _, _ => unverified

end AttributeCheck

structure Verdict where
  isCompatible : Bool := true
  verified : List String := []
  unverified : List String := []
deriving DecidableEq, Repr

namespace Verdict

def isFullyVerified (v : Verdict) : Bool := v.unverified.isEmpty

/-- The verdict after one more check. Once an attribute has failed, nothing is added. -/
def add (v : Verdict) (name : String) (check : AttributeCheck) : Verdict :=
  if v.isCompatible then
    match check with
    | .verified => { v with verified := v.verified ++ [name] }
    | .unverified => { v with unverified := v.unverified ++ [name] }
    | .absent => v
    | .failed => { v with isCompatible := false }
  else v

/-- The verdict after the check of a rating, which may be verified as an equal attribute already. -/
def addRating (v : Verdict) (name : String) (check : AttributeCheck) : Verdict :=
  if check = .verified && v.verified.contains name then v else v.add name check

def of {ν : Type} [Number ν] (t : Tolerance ν) (rule : ReplacementRule)
    (original candidate : Part ν) : Verdict :=
  let v := ({} : Verdict).add rule.primary (.primary t original candidate rule.primary)
  let v := rule.equal.foldl (fun v name => v.add name (.equal t original candidate name)) v
  rule.ratings.foldl (fun v (name, direction) =>
    v.addRating name (.rating t original candidate name direction)) v

end Verdict

end PartSearch
