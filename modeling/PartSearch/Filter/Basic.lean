import PartSearch.Filter.Operator

/-!
Filters on attributes, one comparison each, and the expressions that spell them.
-/

namespace PartSearch

/-- One comparison on an attribute, which is named by its catalog name or a short alias. -/
structure SpecFilter where
  name : String
  operator : Operator
  value : String
deriving DecidableEq, Repr

inductive FilterError where
  | invalidOperator (symbol : String)
  | invalidExpression (text : String)
deriving DecidableEq, Repr

def FilterError.message : FilterError → String
  | invalidOperator symbol =>
    "invalid filter operator '" ++ symbol ++ "' (expected one of =, >=, <=, >, <)"
  | invalidExpression text =>
    "invalid filter expression '" ++ text ++ "' (expected Name<op>Value)"

namespace SpecFilter

def display (f : SpecFilter) : String := f.name ++ " " ++ f.operator.symbol ++ " " ++ f.value

def ofSymbol (name symbol value : String) : Except FilterError SpecFilter :=
  match Operator.ofSymbol? symbol with
  | some operator => .ok { name, operator, value }
  | none => .error (.invalidOperator (trimmed symbol))

/-! ### Expressions -/

def isSymbolChar (c : Char) : Bool := c = '<' || c = '>' || c = '=' || c = '!'

/-- The text between blanks; a text of blanks only keeps its last character. -/
def middle (cs : List Char) : List Char :=
  if cs.all Text.isBlank then cs.drop (cs.length - 1) else Text.trim cs

/-- Symbols that an expression may contain, the two-character ones first. Those that are no
operators are recognized so that they can be refused. -/
def symbols : List String := ["!=", ">=", "<=", "==", "=", ">", "<"]

/-- The value after an operator, which holds no line feed. A text of blanks only is a value if one
of them is not a line feed. -/
def valueOf? (cs : List Char) : Option (List Char) :=
  if cs.all Text.isBlank then (cs.filter (· != '\n')).getLast?.map fun c => [c]
  else
    let value := Text.trim cs
    if value.contains '\n' then none else some value

/-- Symbol and value of the rest of an expression, for the first symbol that leaves a value. -/
def splitSymbol? (cs : List Char) : Option (String × List Char) :=
  symbols.findSome? fun symbol =>
    if symbol.toList.isPrefixOf cs then
      (valueOf? (cs.drop symbol.length)).map fun value => (symbol, value)
    else none

/-- The filter that an expression such as "Vds>=30V" spells: a name, the first run of operator
characters, and a value. -/
def parse (expression : String) : Except FilterError SpecFilter :=
  let cs := expression.toList
  let name := middle (cs.takeWhile fun c => !isSymbolChar c)
  match splitSymbol? (cs.dropWhile fun c => !isSymbolChar c) with
  | some (symbol, value) =>
    if name.isEmpty then .error (.invalidExpression expression)
    else ofSymbol (String.ofList name) symbol (String.ofList value)
  | none => .error (.invalidExpression expression)

end SpecFilter

end PartSearch
