import PartSearch.Text.Table.Alphanumeric
import PartSearch.Text.Table.Digit
import PartSearch.Text.Table.Word

/-!
The classes of characters that reading text distinguishes. Each is decided by a comparison for
ASCII and by a table above it. What patterns tell apart, digits and word characters, is of an older
version of Unicode than letters and numbers are.
-/

namespace PartSearch.Text

/-- Does `c` lie in one of the runs of code points? -/
def inRanges (ranges : List (Nat × Nat)) (c : Char) : Bool :=
  ranges.any fun (first, last) => first ≤ c.toNat && c.toNat ≤ last

def isAscii (c : Char) : Bool := c.toNat < 128

def isBlank (c : Char) : Bool :=
  if isAscii c then c = ' ' || (9 ≤ c.toNat && c.toNat ≤ 13) else inRanges Table.blank c

/-- A decimal digit of any script. -/
def isDigit (c : Char) : Bool :=
  if isAscii c then c.isDigit else inRanges Table.digit c

def isAlphanumeric (c : Char) : Bool :=
  if isAscii c then c.isAlphanum else inRanges Table.alphanumeric c

/-- A character that words are made of; where such a character meets another kind lies a word
boundary. -/
def isWordChar (c : Char) : Bool :=
  if isAscii c then c.isAlphanum || c = '_' else inRanges Table.word c

/-- The C0 and C1 control characters and DEL. -/
def isControl (c : Char) : Bool :=
  c.toNat < 32 || (127 ≤ c.toNat && c.toNat < 160)

end PartSearch.Text
