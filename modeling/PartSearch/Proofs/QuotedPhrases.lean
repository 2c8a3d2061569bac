import PartSearch.Proofs.VisibleText
import PartSearch.Store.FullText

/-!
# Reading an expression back

An expression for a text index is read from left to right. A quote opens a phrase, which runs to the
next quote that is not doubled; a doubled quote stands for one. What is not in a phrase has to be
the star behind it and the separator before the next one. The words that are read in this way are
those of the query, `expression?_reads_back`: wherever a word has quotes, stars or separators of its
own, they stay inside its phrase.
-/

namespace PartSearch

theorem isBlankText_iff_visible {text : String} :
    isBlankText text = true ↔ Text.visible text.toList = [] := by
  simp [isBlankText, Text.visible]

namespace FullText

/-! ### The quoting rule -/

/-- A phrase with every doubled quote read as one, or a character that is in no phrase. -/
inductive Piece where
  | phrase (word : List Char)
  | outside (c : Char)
deriving DecidableEq, Repr

/-- The pieces of a text. If a phrase has been opened and not yet closed, it is given as far as it
has been read. -/
def piecesFrom : Option (List Char) → List Char → Option (List Piece)
  | none, [] => some []
  | some _, [] => none
  | none, '"' :: cs => piecesFrom (some []) cs
  | none, c :: cs => (piecesFrom none cs).map (.outside c :: ·)
  | some word, '"' :: '"' :: cs => piecesFrom (some (word ++ ['"'])) cs
  | some word, '"' :: cs => (piecesFrom none cs).map (.phrase word :: ·)
  | some word, c :: cs => piecesFrom (some (word ++ [c])) cs

def pieces? (expression : String) : Option (List Piece) := piecesFrom none expression.toList

/-- What the phrases say, each of them followed by a star, with one space or " OR " between them. -/
def wordsSaid? : List Piece → Option (List (List Char))
  | [.phrase word, .outside '*'] => some [word]
  | .phrase word :: .outside '*' :: .outside ' ' :: .outside 'O' :: .outside 'R' ::
      .outside ' ' :: pieces => (wordsSaid? pieces).map (word :: ·)
  | .phrase word :: .outside '*' :: .outside ' ' :: pieces =>
    (wordsSaid? pieces).map (word :: ·)
  | _ => none

/-- What stands outside of all phrases. -/
def outsideOf : List Piece → List Char
  | [] => []
  | .phrase _ :: pieces => outsideOf pieces
  | .outside c :: pieces => c :: outsideOf pieces

/-! ### Phrases -/

/-- Quotes of a word are doubled, so none of them closes its phrase. -/
theorem piecesFrom_quoted (said word rest : List Char) (hrest : rest.head? ≠ some '"') :
    piecesFrom (some said)
        (word.flatMap (fun c => if c = '"' then ['"', '"'] else [c]) ++ '"' :: rest) =
      (piecesFrom none rest).map (.phrase (said ++ word) :: ·) := by
  induction word generalizing said with
  | nil =>
      rw [List.append_nil]
      cases rest with
      | nil => rfl
      | cons c rest =>
          have hc : c ≠ '"' := fun h => hrest (by rw [h]; rfl)
          simp [piecesFrom, hc]
  | cons c word ih =>
      by_cases hc : c = '"'
      · have hstep := ih (said ++ ['"'])
        simpa [hc, piecesFrom] using hstep
      · have hstep := ih (said ++ [c])
        simpa [hc, piecesFrom] using hstep

theorem piecesFrom_phrase (word rest : List Char) :
    piecesFrom none (phrase word ++ rest) =
      (piecesFrom none rest).map (.phrase word :: .outside '*' :: ·) := by
  have hquoted := piecesFrom_quoted [] word ('*' :: rest) (by simp)
  have hstar : piecesFrom none ('*' :: rest) = (piecesFrom none rest).map (.outside '*' :: ·) := rfl
  rw [hstar, Option.map_map, List.nil_append] at hquoted
  rw [phrase, List.append_assoc]
  exact hquoted

/-- Characters other than quotes stand outside where no phrase is open. -/
theorem piecesFrom_plain {cs : List Char} (hcs : '"' ∉ cs) (rest : List Char) :
    piecesFrom none (cs ++ rest) = (piecesFrom none rest).map (cs.map .outside ++ ·) := by
  induction cs with
  | nil => simp
  | cons c cs ih =>
      rw [List.mem_cons, not_or] at hcs
      have hc : c ≠ '"' := fun h => hcs.1 h.symm
      have hstep : piecesFrom none (c :: (cs ++ rest)) =
          (piecesFrom none (cs ++ rest)).map (.outside c :: ·) := by
        rw [piecesFrom]
        exact hc
      rw [List.cons_append, hstep, ih hcs.2, Option.map_map]
      rfl

/-! ### Expressions -/

/-- What stands between two phrases. -/
def separator (matchAll : Bool) : List Char := if matchAll then [' '] else " OR ".toList

theorem quote_not_mem_separator (matchAll : Bool) : '"' ∉ separator matchAll := by
  cases matchAll <;> decide

/-- The pieces of an expression with these words. -/
def spelled (between : List Char) : List (List Char) → List Piece
  | [] => []
  | [word] => [.phrase word, .outside '*']
  | word :: words => .phrase word :: .outside '*' :: (between.map .outside ++ spelled between words)

theorem piecesFrom_joinWith {between : List Char} (hbetween : '"' ∉ between)
    (words : List (List Char)) :
    piecesFrom none (Text.joinWith between (words.map phrase)) =
      some (spelled between words) := by
  induction words with
  | nil => rfl
  | cons word words ih =>
      cases words with
      | nil =>
          have hphrase := piecesFrom_phrase word []
          rw [List.append_nil] at hphrase
          exact hphrase
      | cons next words =>
          have hjoin : Text.joinWith between ((word :: next :: words).map phrase) =
              phrase word ++ (between ++ Text.joinWith between ((next :: words).map phrase)) :=
            List.append_assoc ..
          rw [hjoin, piecesFrom_phrase, piecesFrom_plain hbetween, ih]
          rfl

theorem wordsSaid?_spelled (matchAll : Bool) {words : List (List Char)} (hwords : words ≠ []) :
    wordsSaid? (spelled (separator matchAll) words) = some words := by
  induction words with
  | nil => exact absurd rfl hwords
  | cons word words ih =>
      cases words with
      | nil => rfl
      | cons next words =>
          have hnext := ih (List.cons_ne_nil next words)
          -- Behind a space the next piece is a phrase, so one space is never taken for " OR ".
          have hphrase : ∃ pieces, spelled (separator matchAll) (next :: words) =
              .phrase next :: pieces := by
            cases words <;> exact ⟨_, rfl⟩
          obtain ⟨pieces, hpieces⟩ := hphrase
          have hspelled : spelled (separator matchAll) (word :: next :: words) =
              .phrase word :: .outside '*' ::
                ((separator matchAll).map .outside ++ .phrase next :: pieces) := by
            rw [← hpieces]
            rfl
          rw [hpieces] at hnext
          rw [hspelled]
          cases matchAll with
          | true => simp [separator, wordsSaid?, hnext]
          | false => simp [separator, wordsSaid?, hnext]

/-- Outside of the phrases stand the stars and the separators, and no character of a word. -/
theorem outsideOf_spelled (between : List Char) (words : List (List Char)) :
    outsideOf (spelled between words) =
      Text.joinWith between (List.replicate words.length ['*']) := by
  have hplain (cs : List Char) (pieces : List Piece) :
      outsideOf (cs.map .outside ++ pieces) = cs ++ outsideOf pieces := by
    induction cs with
    | nil => rfl
    | cons c cs ih => exact congrArg (c :: ·) ih
  induction words with
  | nil => rfl
  | cons word words ih =>
      cases words with
      | nil => rfl
      | cons next words =>
          have hjoin : Text.joinWith between (List.replicate (next :: words).length.succ ['*']) =
              '*' :: (between ++
                Text.joinWith between (List.replicate (next :: words).length ['*'])) :=
            List.append_assoc ['*'] ..
          rw [List.length_cons, hjoin, ← ih, ← hplain]
          rfl

theorem expression?_eq (query : String) (matchAll : Bool) :
    expression? query matchAll =
      if (Text.words query.toList).isEmpty then none
      else some (String.ofList
        (Text.joinWith (separator matchAll) ((Text.words query.toList).map phrase))) := rfl

theorem words_eq_nil_iff {cs : List Char} : Text.words cs = [] ↔ Text.visible cs = [] := by
  rw [← Text.flatten_words, List.flatten_eq_nil_iff]
  constructor
  · intro hnil word hword
    rw [hnil] at hword
    cases hword
  · intro hempty
    refine List.eq_nil_iff_forall_not_mem.mpr fun word hword => ?_
    have hpiece := (List.mem_filter.mp hword).2
    rw [hempty word hword] at hpiece
    cases hpiece

theorem expression?_eq_none_iff {query : String} {matchAll : Bool} :
    expression? query matchAll = none ↔ isBlankText query = true := by
  rw [expression?_eq, ite_eq_left_iff, isBlankText_iff_visible, ← words_eq_nil_iff,
    ← List.isEmpty_iff]
  simp

/-- Reading an expression back gives the words of the query that it was made for. -/
theorem pieces?_of_expression? {query expression : String} {matchAll : Bool}
    (h : expression? query matchAll = some expression) :
    pieces? expression = some (spelled (separator matchAll) (Text.words query.toList)) ∧
      Text.words query.toList ≠ [] := by
  rw [expression?_eq] at h
  split at h
  · cases h
  · rename_i hwords
    obtain rfl := Option.some.inj h
    rw [pieces?, String.toList_ofList, piecesFrom_joinWith (quote_not_mem_separator matchAll)]
    exact ⟨rfl, fun hnil => hwords (by rw [hnil]; rfl)⟩

/-- An expression is missing exactly for a blank query. Any other query's words are read back from
its expression, one after the other; outside of the phrases there is nothing of the query, and
queries with other words have other expressions, however they are to be matched. -/
theorem expression?_reads_back (query : String) (matchAll : Bool) :
    (expression? query matchAll = none ↔ isBlankText query = true) ∧
      ∀ expression, expression? query matchAll = some expression →
        (∃ pieces, pieces? expression = some pieces ∧
          wordsSaid? pieces = some (Text.words query.toList) ∧
          outsideOf pieces = Text.joinWith (separator matchAll)
            (List.replicate (Text.words query.toList).length ['*'])) ∧
        ∀ other matchAll', expression? other matchAll' = some expression →
          Text.words other.toList = Text.words query.toList := by
  refine ⟨expression?_eq_none_iff, fun expression h => ?_⟩
  obtain ⟨hpieces, hwords⟩ := pieces?_of_expression? h
  have hsaid := wordsSaid?_spelled matchAll hwords
  refine ⟨⟨_, hpieces, hsaid, outsideOf_spelled _ _⟩, ?_⟩
  intro other matchAll' hother
  obtain ⟨hpieces', hwords'⟩ := pieces?_of_expression? hother
  have hsame := Option.some.inj (hpieces'.symm.trans hpieces)
  have hsaid' := wordsSaid?_spelled matchAll' hwords'
  rw [hsame, hsaid] at hsaid'
  exact (Option.some.inj hsaid').symm

/-- Three quotes, the word that stands between phrases, and a star, all of them as words. -/
def quotesAndStar : String := "\"\"\" OR *"

theorem expression?_reads_back_quotesAndStar :
    expression? quotesAndStar false = some "\"\"\"\"\"\"\"\"* OR \"OR\"* OR \"*\"*" ∧
      ∃ pieces, pieces? "\"\"\"\"\"\"\"\"* OR \"OR\"* OR \"*\"*" = some pieces ∧
        wordsSaid? pieces = some [['"', '"', '"'], ['O', 'R'], ['*']] ∧
        outsideOf pieces = "* OR * OR *".toList := by
  have hwords : Text.words quotesAndStar.toList = [['"', '"', '"'], ['O', 'R'], ['*']] := by
    decide +kernel
  have hexpression : expression? quotesAndStar false =
      some "\"\"\"\"\"\"\"\"* OR \"OR\"* OR \"*\"*" := by
    rw [expression?_eq, hwords]
    rfl
  obtain ⟨⟨pieces, hpieces, hsaid, houtside⟩, -⟩ :=
    (expression?_reads_back quotesAndStar false).2 _ hexpression
  rw [hwords] at hsaid houtside
  exact ⟨hexpression, pieces, hpieces, hsaid, houtside⟩

end FullText
end PartSearch
