import PartSearch.Attribute.Name
import PartSearch.Filter.Check
import PartSearch.Filter.Group
import PartSearch.Store.Like
import PartSearch.Store.Predicate

/-!
Filters as conditions of a store. An attribute with a numeric column becomes a comparison on the
column. Any other becomes LIKE patterns over the attribute blob, which only narrow the rows down
when a value is a number, together with a check of the rows that are fetched.
-/

namespace PartSearch

/-- Conditions for the store, and checks for the rows that it returns. -/
structure Compiled (ν : Type) where
  clauses : List (Predicate ν) := []
  checks : List (RowCheck ν) := []

namespace Compiled

variable {ν : Type}

instance : Append (Compiled ν) := ⟨fun a b => ⟨a.clauses ++ b.clauses, a.checks ++ b.checks⟩⟩

/-- More rows than a page have to be fetched, because checks will drop some. -/
def needsMore (c : Compiled ν) : Bool := !c.checks.isEmpty

end Compiled

namespace FilterGroup

variable {ν : Type} [Number ν]

/-- The condition that a numeric column has one value. -/
def columnClause (t : Tolerance ν) (column : String) (operator : Operator) (target : ν) :
    Predicate ν :=
  match operator with
  | .eq =>
    let (low, high) := t.equalityBounds target
    .columnBetween column low high
  | _ => .columnCompare column operator target

/-- One condition as it is, several as alternatives. -/
def alternatives : List (Predicate ν) → Predicate ν
  | [p] => p
  | ps => .anyOf ps

/-- The group on a numeric column, if one serves the attribute and every value is a number. -/
def onColumn? (t : Tolerance ν) (g : FilterGroup) : Option (Predicate ν) := do
  let column ← Attribute.column? g.name
  let targets ← g.values.mapM fun v => column.format.read? v
  return alternatives (targets.map (columnClause t column.name g.operator))

/-- Attributes such as "Interface" list several values in one. -/
def listsValues (g : FilterGroup) : Bool := Text.sameText g.name "interface"

def textPattern (g : FilterGroup) (name value : String) : String :=
  if g.listsValues then Like.attributeContains name value else Like.attributeEquals name value

def readValues (g : FilterGroup) (format : AttributeFormat) : List (String × ν) :=
  g.values.filterMap fun v => (format.readScalar? v).map fun x => (v, x)

def literalValues (ν : Type) [Number ν] (g : FilterGroup) (format : AttributeFormat) :
    List String :=
  g.values.filter fun v => (format.readScalar? v : Option ν).isNone

/-- The condition that one of the patterns matches, if there is a pattern. -/
def likeClause (patterns : List String) : List (Predicate ν) :=
  if patterns.isEmpty then [] else [.attributeLike patterns]

/-- The group over the attribute blob, when some of its values are numbers. -/
def numeric (g : FilterGroup) (names : List String) (format : AttributeFormat)
    (read : List (String × ν)) : Compiled ν :=
  let literals := g.literalValues ν format
  let patterns :=
    if g.operator = .eq && !format.isInterval then
      (names.flatMap fun n => read.flatMap fun (v, x) => Like.valuePatterns n v x) ++
        names.flatMap fun n => literals.map (g.textPattern n)
    else names.map Like.attributeExists
  { clauses := likeClause patterns
    checks := [{ name := g.name, attributeNames := names, operator := g.operator,
                 targets := read.map (·.2), literals, format }] }

/-- The group over the attribute blob, when its values are text. Without numbers an ordered
comparison only asks for the attribute. -/
def textual (g : FilterGroup) (names : List String) : Compiled ν :=
  { clauses := likeClause <|
      if g.operator = .eq then names.flatMap fun n => g.values.map (g.textPattern n)
      else names.map Like.attributeExists }

def onBlob (g : FilterGroup) : Compiled ν :=
  let names := Attribute.catalogNames g.name
  match Attribute.formatOf? names with
  | some format =>
    let read : List (String × ν) := g.readValues format
    if read.isEmpty then g.textual names else g.numeric names format read
  | none => g.textual names

/-- The group on a numeric column if there is one, and over the attribute blob otherwise. -/
def compile (t : Tolerance ν) (g : FilterGroup) : Compiled ν :=
  match g.onColumn? t with
  | some clause => { clauses := [clause] }
  | none => g.onBlob

end FilterGroup

def Compiled.ofGroups {ν : Type} [Number ν] (t : Tolerance ν) (groups : List FilterGroup) :
    Compiled ν where
  clauses := groups.flatMap fun g => (g.compile t).clauses
  checks := groups.flatMap fun g => (g.compile t).checks

end PartSearch
