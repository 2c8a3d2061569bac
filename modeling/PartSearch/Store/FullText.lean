import PartSearch.Text.Blank

/-!
Full-text queries: as an expression for a text index, and as terms for a store that looks for them
itself.
-/

namespace PartSearch.FullText

/-- A word as a phrase that may be continued; quotes inside it are doubled. -/
def phrase (word : List Char) : List Char :=
  '"' :: word.flatMap (fun c => if c = '"' then ['"', '"'] else [c]) ++ ['"', '*']

/-- Every word of a query as a phrase; all of them have to occur, or any of them. A blank query has
no expression. -/
def expression? (query : String) (matchAll : Bool) : Option String :=
  let words := Text.words query.toList
  let separator := if matchAll then [' '] else " OR ".toList
  if words.isEmpty then none
  else some (String.ofList (Text.joinWith separator (words.map phrase)))

/-- The words of a query in lowercase, without quotes at their ends. -/
def terms (query : String) : List String :=
  let bare (word : List Char) : List Char := Text.trimEndOf (· == '"') (word.dropWhile (· == '"'))
  (((Text.words query.toList).map fun w => Text.lower (bare w)).filter fun w => !w.isEmpty).map
    String.ofList

/-- The runs of letters and numbers of a text, in lowercase. -/
def wordsOf (cs : List Char) : List (List Char) :=
  (Text.runsBetween (fun c => !Text.isAlphanumeric c) cs).map Text.lower

/-- Do the words of a phrase stand at the start of a list of words, the last one perhaps only as the
start of a word? -/
def phraseAt : List (List Char) → List (List Char) → Bool
  | [], _ => false
  | [_], [] => false
  | [last], word :: _ => last.isPrefixOf word
  | _ :: _ :: _, [] => false
  | w :: next :: ws, word :: words => w == word && phraseAt (next :: ws) words

def phraseOccurs (phrase : List (List Char)) : List (List Char) → Bool
  | [] => false
  | word :: words => phraseAt phrase (word :: words) || phraseOccurs phrase words

end PartSearch.FullText
