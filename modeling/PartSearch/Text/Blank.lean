import PartSearch.Text.LetterCase

/-!
Texts cut at white space and at separators. `collapse` is the normal form of a text whose spacing
does not matter: its words with one space between neighbours.
-/

namespace PartSearch.Text

/-- The pieces between the characters that satisfy `isCut`, empty ones included. -/
def splitAt (isCut : Char → Bool) : List Char → List (List Char)
  | [] => [[]]
  | c :: cs =>
    if isCut c then [] :: splitAt isCut cs else
      match splitAt isCut cs with
      | [] => [[c]]
      | piece :: pieces => (c :: piece) :: pieces

/-- The maximal runs of characters that do not satisfy `isCut`. -/
def runsBetween (isCut : Char → Bool) (cs : List Char) : List (List Char) :=
  (splitAt isCut cs).filter fun piece => !piece.isEmpty

def words (cs : List Char) : List (List Char) := runsBetween isBlank cs

def joinWith (separator : List Char) : List (List Char) → List Char
  | [] => []
  | [piece] => piece
  | piece :: pieces => piece ++ separator ++ joinWith separator pieces

/-- Trimmed, and with runs of white space squeezed to one space. -/
def collapse (cs : List Char) : List Char := joinWith [' '] (words cs)

def trimStart (cs : List Char) : List Char := cs.dropWhile isBlank

/-- The text without its trailing characters that satisfy `drop`. -/
def trimEndOf (drop : Char → Bool) (cs : List Char) : List Char :=
  (cs.reverse.dropWhile drop).reverse

def trim (cs : List Char) : List Char := trimEndOf isBlank (trimStart cs)

def startsWith (piece cs : List Char) : Bool := piece.isPrefixOf cs

def contains (piece : List Char) : List Char → Bool
  | [] => piece.isEmpty
  | c :: cs => piece.isPrefixOf (c :: cs) || contains piece cs

end PartSearch.Text

namespace PartSearch

def trimmed (text : String) : String := String.ofList (Text.trim text.toList)

def isBlankText (text : String) : Bool := text.toList.all Text.isBlank

def lowercase (text : String) : String := String.ofList (Text.lower text.toList)

def uppercase (text : String) : String := String.ofList (Text.upper text.toList)

def containsText (text piece : String) : Bool := Text.contains piece.toList text.toList

end PartSearch
