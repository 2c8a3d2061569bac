import Mathlib.Data.List.Chain
import PartSearch.Proofs.CutSteps
import PartSearch.Proofs.WordOccurrences
import PartSearch.Query.Residue

/-!
# The words of a residue

What is left of a query is cleaned of lone letters and hyphens. A word is a run of word characters.
A lone letter has none beside it, and a hyphen with the white space around it holds none, so
rewriting either one joins no two words and cuts none: `clean_words`.
-/

namespace PartSearch

namespace Text

/-! ### Runs between cuts -/

section Runs

variable {isCut : Char → Bool}

theorem splitAt_cons_cut {c : Char} (hc : isCut c = true) (cs : List Char) :
    splitAt isCut (c :: cs) = [] :: splitAt isCut cs := by rw [splitAt, if_pos hc]

theorem splitAt_cons_uncut {c : Char} (hc : isCut c = false) {cs piece : List Char}
    {pieces : List (List Char)} (h : splitAt isCut cs = piece :: pieces) :
    splitAt isCut (c :: cs) = (c :: piece) :: pieces := by
  rw [splitAt, h, hc, if_neg Bool.false_ne_true]

theorem splitAt_append_cut {c : Char} (hc : isCut c = true) (front back : List Char) :
    splitAt isCut (front ++ c :: back) = splitAt isCut front ++ splitAt isCut back := by
  induction front with
  | nil => exact splitAt_cons_cut hc back
  | cons d front ih =>
      cases hd : isCut d with
      | true =>
          rw [List.cons_append, splitAt_cons_cut hd, splitAt_cons_cut hd, ih, List.cons_append]
      | false =>
          obtain ⟨piece, pieces, hsplit⟩ :=
            List.exists_cons_of_ne_nil (splitAt_ne_nil isCut front)
          rw [hsplit] at ih
          rw [List.cons_append, splitAt_cons_uncut hd ih, splitAt_cons_uncut hd hsplit]
          rfl

theorem runsBetween_append_cut {c : Char} (hc : isCut c = true) (front back : List Char) :
    runsBetween isCut (front ++ c :: back) =
      runsBetween isCut front ++ runsBetween isCut back := by
  rw [runsBetween, splitAt_append_cut hc, List.filter_append]
  rfl

theorem runsBetween_append_gap {gap : List Char} (hne : gap ≠ [])
    (hgap : ∀ c ∈ gap, isCut c = true) (front back : List Char) :
    runsBetween isCut (front ++ (gap ++ back)) =
      runsBetween isCut front ++ runsBetween isCut back := by
  induction gap generalizing front with
  | nil => exact absurd rfl hne
  | cons c gap ih =>
      obtain ⟨hc, hgap⟩ := List.forall_mem_cons.mp hgap
      rw [List.cons_append, runsBetween_append_cut hc]
      by_cases hempty : gap = []
      · rw [hempty, List.nil_append]
      · congr 1
        exact ih hempty hgap []

theorem runsBetween_joinWith {separator : List Char} (hne : separator ≠ [])
    (hseparator : ∀ c ∈ separator, isCut c = true) (pieces : List (List Char)) :
    runsBetween isCut (joinWith separator pieces) = pieces.flatMap (runsBetween isCut) := by
  induction pieces with
  | nil => rfl
  | cons piece pieces ih =>
      cases pieces with
      | nil => rw [joinWith, List.flatMap_singleton]
      | cons next rest =>
          rw [List.flatMap_cons, ← ih, ← runsBetween_append_gap hne hseparator,
            ← List.append_assoc]
          rfl

section Pieces

variable {isOther : Char → Bool} (h : ∀ c, isOther c = true → isCut c = true)

include h

/-- The first piece of a text between some of its cuts goes on with what stands before it. -/
theorem runsBetween_append_pieces (front : List Char) {cs piece : List Char}
    {pieces : List (List Char)} (hsplit : splitAt isOther cs = piece :: pieces) :
    runsBetween isCut (front ++ cs) =
      runsBetween isCut (front ++ piece) ++ pieces.flatMap (runsBetween isCut) := by
  induction cs generalizing front piece pieces with
  | nil =>
      obtain ⟨rfl, rfl⟩ := List.cons.inj hsplit
      simp
  | cons c cs ih =>
      obtain ⟨next, rest, hrest⟩ := List.exists_cons_of_ne_nil (splitAt_ne_nil isOther cs)
      cases hc : isOther c with
      | true =>
          rw [splitAt_cons_cut hc, hrest] at hsplit
          obtain ⟨rfl, rfl⟩ := List.cons.inj hsplit
          rw [runsBetween_append_cut (h c hc), List.append_nil, List.flatMap_cons]
          congr 1
          exact ih [] hrest
      | false =>
          rw [splitAt_cons_uncut hc hrest] at hsplit
          obtain ⟨rfl, rfl⟩ := List.cons.inj hsplit
          have hnext := ih (front ++ [c]) hrest
          rwa [List.append_assoc, List.append_assoc] at hnext

theorem runsBetween_eq_flatMap (cs : List Char) :
    runsBetween isCut cs = (runsBetween isOther cs).flatMap (runsBetween isCut) := by
  have hnonempty (pieces : List (List Char)) :
      (pieces.filter fun piece => !piece.isEmpty).flatMap (runsBetween isCut) =
        pieces.flatMap (runsBetween isCut) := by
    induction pieces with
    | nil => rfl
    | cons piece pieces ih =>
        cases piece with
        | nil => exact ih
        | cons c piece => exact congrArg (runsBetween isCut (c :: piece) ++ ·) ih
  obtain ⟨piece, pieces, hsplit⟩ := List.exists_cons_of_ne_nil (splitAt_ne_nil isOther cs)
  calc runsBetween isCut cs
    _ = (splitAt isOther cs).flatMap (runsBetween isCut) := by
        rw [hsplit, List.flatMap_cons]
        exact runsBetween_append_pieces h [] hsplit
    _ = (runsBetween isOther cs).flatMap (runsBetween isCut) := (hnonempty _).symm

end Pieces

theorem runsBetween_collapse (h : ∀ c, isBlank c = true → isCut c = true) (cs : List Char) :
    runsBetween isCut (collapse cs) = runsBetween isCut cs := by
  have hspace : ∀ c ∈ [' '], isCut c = true := List.forall_mem_singleton.mpr (h ' ' (by decide))
  calc runsBetween isCut (collapse cs)
    _ = (words cs).flatMap (runsBetween isCut) :=
        runsBetween_joinWith (List.cons_ne_nil ' ' []) hspace (words cs)
    _ = runsBetween isCut cs := (runsBetween_eq_flatMap h cs).symm

end Runs

/-! ### Collapsed texts -/

/-- White space stands between two other characters only, and no two are next to each other. -/
structure IsCollapsed (cs : List Char) : Prop where
  starts : cs.head?.any isBlank = false
  ends : cs.getLast?.any isBlank = false
  apart : cs.IsChain fun c d => isBlank c = false ∨ isBlank d = false

theorem IsCollapsed.cons {c : Char} {cs : List Char} (hc : isBlank c = false)
    (h : IsCollapsed cs) : IsCollapsed (c :: cs) where
  starts := hc
  ends := by
    cases cs with
    | nil => exact hc
    | cons d cs => rw [List.getLast?_cons_cons, h.ends]
  apart := List.isChain_cons.mpr ⟨fun _ _ => Or.inl hc, h.apart⟩

theorem IsCollapsed.cons_spaced {c : Char} {cs : List Char} (hc : isBlank c = false)
    (h : IsCollapsed cs) : IsCollapsed (c :: spaced cs) := by
  cases cs with
  | nil => exact IsCollapsed.cons hc h
  | cons d cs =>
      have hd : isBlank d = false := h.starts
      refine ⟨hc, ?_, ?_⟩
      · rw [spaced, if_neg (List.cons_ne_nil d cs), List.getLast?_cons_cons,
          List.getLast?_cons_cons, h.ends]
      · exact List.isChain_cons.mpr ⟨fun _ _ => Or.inl hc,
          List.isChain_cons_cons.mpr ⟨Or.inr hd, h.apart⟩⟩

theorem isCollapsed_collapse (cs : List Char) : IsCollapsed (collapse cs) := by
  induction cs with
  | nil => exact ⟨rfl, rfl, .nil⟩
  | cons c cs ih =>
      cases hc : isBlank c with
      | true => rwa [collapse_cons_of_blank hc]
      | false =>
          cases cs with
          | nil =>
              rw [collapse_singleton hc]
              exact IsCollapsed.cons hc ih
          | cons d cs =>
              cases hd : isBlank d with
              | false =>
                  rw [collapse_cons_cons hc hd]
                  exact IsCollapsed.cons hc ih
              | true =>
                  rw [collapse_cons_of_end hc hd]
                  rw [collapse_cons_of_blank hd] at ih
                  exact IsCollapsed.cons_spaced hc ih

theorem collapse_collapse (cs : List Char) : collapse (collapse cs) = collapse cs := by
  have hwords : words (collapse cs) = words cs := runsBetween_collapse (fun _ h => h) cs
  rw [collapse, hwords, collapse]

/-! ### Words -/

/-- The maximal runs of word characters. -/
def wordRuns (cs : List Char) : List (List Char) := runsBetween (fun c => !isWordChar c) cs

def isLoneLetter (word : List Char) : Bool :=
  match word with
  | [c] => c.isAlpha
  | _ => false

theorem isWordChar_of_isBlank {c : Char} (h : isBlank c = true) : isWordChar c = false := by
  have hapart : ∀ r ∈ Table.blank, ∀ s ∈ Table.word, r.2 < s.1 ∨ s.2 < r.1 := by decide +kernel
  rw [isWordChar]
  split
  · simp [isAlphanum_eq_false_of_isBlank h, ne_underscore_of_isBlank h]
  · rename_i hwide
    rw [isBlank, if_neg hwide] at h
    exact inRanges_eq_false hapart h

theorem wordRuns_collapse (cs : List Char) : wordRuns (collapse cs) = wordRuns cs :=
  runsBetween_collapse (fun c hc => by rw [isWordChar_of_isBlank hc, Bool.not_false]) cs

namespace Pattern

/-! ### Rewriting what holds no word character -/

section Replacing

variable {p : Pattern} {write : Found → List Char}

theorem replaceFrom_eq_self {before cs : List Char} (h : p.findFrom? before cs = none) :
    p.replaceFrom write before 0 cs = cs := by
  induction cs generalizing before with
  | nil => rfl
  | cons c cs ih =>
      rw [findFrom?] at h
      cases hat : p.at? before (c :: cs) with
      | some m =>
          rw [hat] at h
          cases h
      | none =>
          rw [hat] at h
          rw [replaceFrom, hat, ih h]

theorem wordRuns_replaceFrom (hread : ∀ read, p.Reads read → ∀ c ∈ read, isWordChar c = false)
    (hne : ∀ m, write m ≠ []) (hwrite : ∀ m, ∀ c ∈ write m, isWordChar c = false)
    (front before : List Char) (skip : Nat) (cs : List Char) :
    wordRuns (front ++ p.replaceFrom write before skip cs) = wordRuns (front ++ cs.drop skip) := by
  induction cs generalizing front before skip with
  | nil => rw [replaceFrom, List.drop_nil]
  | cons c cs ih =>
      have hkeep : wordRuns (front ++ c :: p.replaceFrom write (c :: before) 0 cs) =
          wordRuns (front ++ c :: cs) := by
        have hnext := ih (front ++ [c]) (c :: before) 0
        rwa [List.append_assoc, List.append_assoc] at hnext
      cases skip with
      | succ skip => exact ih front (c :: before) skip
      | zero =>
          rw [replaceFrom, List.drop_zero]
          split
          · rename_i m hat
            split
            · exact hkeep
            · rename_i hempty
              obtain ⟨hbefore, hfinds⟩ := finds_of_at? hat
              have hwhole : m.text ++ m.after = c :: cs := by
                have hwhole := hfinds.whole
                rwa [hbefore, List.append_assoc, List.append_cancel_left_eq] at hwhole
              have htext : m.text ≠ [] := by simpa using hempty
              have hafter : cs.drop (m.text.length - 1) = m.after := by
                have hdrop := congrArg (List.drop m.text.length) hwhole
                rw [List.drop_left] at hdrop
                rw [hdrop, ← Nat.sub_add_cancel (List.length_pos_iff.mpr htext),
                  List.drop_succ_cons]
                rfl
              calc wordRuns (front ++ (write m ++ p.replaceFrom write (c :: before) _ cs))
                _ = wordRuns front ++ wordRuns (p.replaceFrom write (c :: before) _ cs) :=
                    runsBetween_append_gap (hne m) (by simpa using hwrite m) front _
                _ = wordRuns front ++ wordRuns m.after := by
                    have hrest := ih [] (c :: before) (m.text.length - 1)
                    rw [List.nil_append, List.nil_append, hafter] at hrest
                    rw [hrest]
                _ = wordRuns (front ++ (m.text ++ m.after)) :=
                    (runsBetween_append_gap htext (by simpa using hread _ hfinds.reads) front
                      m.after).symm
                _ = wordRuns (front ++ c :: cs) := by rw [hwhole]
          · exact hkeep

end Replacing

end Pattern

end Text

namespace Residue

open Text
open Text.Pattern

/-! ### Lone letters -/

/-- A letter with no word character beside it. -/
def standsAlone (before : List Char) (c : Char) (after : List Char) : Bool :=
  c.isAlpha && !before.head?.any isWordChar && !after.head?.any isWordChar

theorem isWordChar_of_isAlpha {c : Char} (h : c.isAlpha = true) : isWordChar c = true :=
  isWordChar_of_isAlphanum (by rw [Char.isAlphanum, h, Bool.true_or])

theorem isEdge_eq (before after : List Char) (captures : List Capture) :
    (Place.mk before after captures).isEdge =
      (before.head?.any isWordChar != after.head?.any isWordChar) := by
  cases before <;> cases after <;> rfl

theorem at?_loneLetter (before : List Char) (c : Char) (after : List Char) :
    loneLetter.at? before (c :: after) =
      if standsAlone before c after then some ⟨before, [c], after, []⟩ else none := by
  have hends : loneLetter.ends ⟨before, c :: after, []⟩ =
      if standsAlone before c after then [⟨c :: before, after, []⟩] else [] := by
    change ((edge.ends _).flatMap (one Char.isAlpha).ends).flatMap edge.ends = _
    by_cases hc : c.isAlpha = true
    · have hword := isWordChar_of_isAlpha hc
      cases hbefore : before.head?.any isWordChar <;> cases hafter : after.head?.any isWordChar <;>
        simp [ends, isEdge_eq, standsAlone, hc, hword, hbefore, hafter]
    · cases hedge : (Place.mk before (c :: after) []).isEdge <;>
        simp [ends, standsAlone, hc, hedge]
  rw [at?, hends]
  split
  · simp
  · rfl

theorem replaceFrom_loneLetter (before : List Char) (c : Char) (after : List Char) :
    loneLetter.replaceFrom (fun _ => []) before 0 (c :: after) =
      if standsAlone before c after then loneLetter.replaceFrom (fun _ => []) (c :: before) 0 after
      else c :: loneLetter.replaceFrom (fun _ => []) (c :: before) 0 after := by
  rw [replaceFrom, at?_loneLetter]
  cases standsAlone before c after <;> rfl

/-- A word without what is removed of it. -/
def withoutLone (word : List Char) : List Char := if isLoneLetter word then [] else word

def notWord (c : Char) : Bool := !isWordChar c

theorem withoutLone_nil : withoutLone [] = [] := rfl

theorem isEmpty_word {cs word : List Char} {rest : List (List Char)}
    (hsplit : splitAt notWord cs = word :: rest) : word.isEmpty = !cs.head?.any isWordChar := by
  cases cs with
  | nil =>
      obtain ⟨rfl, rfl⟩ := List.cons.inj hsplit
      rfl
  | cons c cs =>
      obtain ⟨next, others, hnext⟩ := List.exists_cons_of_ne_nil (splitAt_ne_nil notWord cs)
      cases hc : notWord c with
      | true =>
          rw [splitAt_cons_cut hc] at hsplit
          obtain ⟨rfl, -⟩ := List.cons.inj hsplit
          exact hc.symm
      | false =>
          rw [splitAt_cons_uncut hc hnext] at hsplit
          obtain ⟨rfl, -⟩ := List.cons.inj hsplit
          exact hc.symm

theorem standsAlone_eq (before : List Char) (c : Char) {cs next : List Char}
    {others : List (List Char)} (hnext : splitAt notWord cs = next :: others) :
    standsAlone before c cs = (!before.head?.any isWordChar && isLoneLetter (c :: next)) := by
  have hempty := isEmpty_word hnext
  cases next with
  | nil => simp [standsAlone, isLoneLetter, ← hempty, Bool.and_comm]
  | cons d next => simp [standsAlone, isLoneLetter, ← hempty]

theorem notWord_of_isLoneLetter {c : Char} {word : List Char}
    (h : isLoneLetter (c :: word) = true) : word = [] ∧ notWord c = false := by
  cases word with
  | nil => exact ⟨rfl, by rw [notWord, isWordChar_of_isAlpha h, Bool.not_true]⟩
  | cons d word => cases h

/-- The first word of a text goes on with the word that `before` ends in, if it ends in one. -/
theorem splitAt_replaceFrom (before : List Char) {cs word : List Char} {rest : List (List Char)}
    (hsplit : splitAt notWord cs = word :: rest) :
    splitAt notWord (loneLetter.replaceFrom (fun _ => []) before 0 cs) =
      (if before.head?.any isWordChar then word else withoutLone word) ::
        rest.map withoutLone := by
  induction cs generalizing before word rest with
  | nil =>
      obtain ⟨rfl, rfl⟩ := List.cons.inj hsplit
      rw [withoutLone_nil, ite_self]
      rfl
  | cons c cs ih =>
      obtain ⟨next, others, hnext⟩ := List.exists_cons_of_ne_nil (splitAt_ne_nil notWord cs)
      have htail := ih (c :: before) hnext
      rw [replaceFrom_loneLetter, standsAlone_eq before c hnext]
      cases hc : notWord c with
      | true =>
          have hlone : isLoneLetter (c :: next) = false := by
            rw [← Bool.not_eq_true]
            intro hlone
            rw [(notWord_of_isLoneLetter hlone).2] at hc
            cases hc
          have hword : isWordChar c = false := by simpa [notWord] using hc
          rw [splitAt_cons_cut hc, hnext] at hsplit
          obtain ⟨rfl, rfl⟩ := List.cons.inj hsplit
          rw [hlone, Bool.and_false, if_neg Bool.false_ne_true, splitAt_cons_cut hc, htail,
            withoutLone_nil, ite_self]
          simp [hword]
      | false =>
          have hword : isWordChar c = true := by simpa [notWord] using hc
          rw [List.head?_cons, Option.any_some, hword, if_pos rfl] at htail
          rw [splitAt_cons_uncut hc hnext] at hsplit
          obtain ⟨rfl, rfl⟩ := List.cons.inj hsplit
          cases hbefore : before.head?.any isWordChar with
          | true => simp [splitAt_cons_uncut hc htail]
          | false =>
              cases hlone : isLoneLetter (c :: next) with
              | true =>
                  obtain ⟨rfl, -⟩ := notWord_of_isLoneLetter hlone
                  simp [htail, withoutLone, hlone]
              | false => simp [splitAt_cons_uncut hc htail, withoutLone, hlone]

/-- Where no word is a lone letter, none is removed. -/
theorem replaceFrom_loneLetter_eq_self (before : List Char) {cs word : List Char}
    {rest : List (List Char)} (hsplit : splitAt notWord cs = word :: rest)
    (hword : before.head?.any isWordChar = false → isLoneLetter word = false)
    (hrest : ∀ word ∈ rest, isLoneLetter word = false) :
    loneLetter.replaceFrom (fun _ => []) before 0 cs = cs := by
  induction cs generalizing before word rest with
  | nil => rfl
  | cons c cs ih =>
      obtain ⟨next, others, hnext⟩ := List.exists_cons_of_ne_nil (splitAt_ne_nil notWord cs)
      have hstays : standsAlone before c cs = false →
          loneLetter.replaceFrom (fun _ => []) (c :: before) 0 cs = cs →
          loneLetter.replaceFrom (fun _ => []) before 0 (c :: cs) = c :: cs := by
        intro hstands htail
        rw [replaceFrom_loneLetter, hstands, if_neg Bool.false_ne_true, htail]
      cases hc : notWord c with
      | true =>
          rw [splitAt_cons_cut hc, hnext] at hsplit
          obtain ⟨rfl, rfl⟩ := List.cons.inj hsplit
          obtain ⟨hfirst, hothers⟩ := List.forall_mem_cons.mp hrest
          refine hstays ?_ (ih (c :: before) hnext (fun _ => hfirst) hothers)
          rw [standsAlone_eq before c hnext, Bool.and_eq_false_iff,
            ← Bool.not_eq_true (isLoneLetter _)]
          right
          intro hlone
          rw [(notWord_of_isLoneLetter hlone).2] at hc
          cases hc
      | false =>
          rw [splitAt_cons_uncut hc hnext] at hsplit
          obtain ⟨rfl, rfl⟩ := List.cons.inj hsplit
          refine hstays ?_ (ih (c :: before) hnext (fun hbefore => ?_) hrest)
          · rw [standsAlone_eq before c hnext]
            cases hbefore : before.head?.any isWordChar with
            | true => rfl
            | false => rw [hword hbefore, Bool.and_false]
          · rw [notWord, Bool.not_eq_false'] at hc
            rw [List.head?_cons, Option.any_some, hc] at hbefore
            cases hbefore

theorem wordRuns_removeAll (cs : List Char) :
    wordRuns (loneLetter.removeAll cs) = (wordRuns cs).filter fun word => !isLoneLetter word := by
  obtain ⟨word, rest, hsplit⟩ := List.exists_cons_of_ne_nil (splitAt_ne_nil notWord cs)
  have hremove : splitAt notWord (loneLetter.removeAll cs) =
      (splitAt notWord cs).map withoutLone := by
    rw [hsplit]
    exact splitAt_replaceFrom [] hsplit
  have hfilter (pieces : List (List Char)) :
      (pieces.map withoutLone).filter (fun piece => !piece.isEmpty) =
        (pieces.filter fun piece => !piece.isEmpty).filter fun word => !isLoneLetter word := by
    induction pieces with
    | nil => rfl
    | cons piece pieces ih =>
        cases hlone : isLoneLetter piece <;> cases hempty : piece.isEmpty <;>
          simp_all [withoutLone]
  change (splitAt notWord _).filter _ = _
  rw [hremove]
  exact hfilter _

theorem removeAll_loneLetter_eq_self {cs : List Char}
    (h : ∀ word ∈ wordRuns cs, isLoneLetter word = false) : loneLetter.removeAll cs = cs := by
  obtain ⟨word, rest, hsplit⟩ := List.exists_cons_of_ne_nil (splitAt_ne_nil notWord cs)
  have hpieces : ∀ piece ∈ word :: rest, isLoneLetter piece = false := by
    intro piece hpiece
    cases piece with
    | nil => rfl
    | cons c piece => exact h _ (List.mem_filter.mpr ⟨hsplit ▸ hpiece, rfl⟩)
  obtain ⟨hword, hrest⟩ := List.forall_mem_cons.mp hpieces
  exact replaceFrom_loneLetter_eq_self [] hsplit (fun _ => hword) hrest

/-! ### Hyphens -/

theorem isWordChar_of_reads_hyphen {read : List Char} (h : hyphen.Reads read) :
    ∀ c ∈ read, isWordChar c = false := by
  obtain ⟨front, back, hfront, hback, rfl⟩ := reads_append_iff.mp h
  obtain ⟨blank, sign, hblank, hsign, rfl⟩ := reads_append_iff.mp hfront
  obtain ⟨c, hc, rfl⟩ := reads_one_iff.mp hsign
  obtain rfl : c = '-' := by simpa using hc
  have hword {cs : List Char} (hcs : blanks.Reads cs) : ∀ c ∈ cs, isWordChar c = false :=
    fun c hc => isWordChar_of_isBlank (forall_of_reads_many_one hcs c hc)
  intro c hc
  rcases List.mem_append.mp hc with hc | hc
  · rcases List.mem_append.mp hc with hc | hc
    · exact hword hblank c hc
    · obtain rfl := List.mem_singleton.mp hc
      decide
  · exact hword hback c hc

theorem wordRuns_replaceAll_hyphen (cs : List Char) :
    wordRuns (hyphen.replaceAll (fun _ => [' ']) cs) = wordRuns cs :=
  wordRuns_replaceFrom (fun _ => isWordChar_of_reads_hyphen) (fun _ => List.cons_ne_nil _ _)
    (fun _ => List.forall_mem_singleton.mpr (by decide)) [] [] 0 cs

theorem needs_hyphen : hyphen.Needs "-".toList.contains := (needs_charOf "-").right.left

theorem at?_hyphen (before after : List Char) :
    ∃ m, hyphen.at? before ('-' :: after) = some m ∧ m.text ≠ [] := by
  have hsign : (charOf "-").Takes ['-'] after [] := .char (by decide) after
  have hblanks : blanks.Takes (after.takeWhile isBlank) (after.dropWhile isBlank) [] :=
    .many_one List.all_takeWhile (head?_dropWhile_eq_false isBlank after)
  have htakes : hyphen.Takes ('-' :: after.takeWhile isBlank) (after.dropWhile isBlank) [] := by
    rw [← List.takeWhile_append_dropWhile (p := isBlank) (l := after)] at hsign
    have hnone : blanks.Takes []
        (['-'] ++ (after.takeWhile isBlank ++ after.dropWhile isBlank)) [] := .blanks rfl
    exact (hnone.seq hsign).seq hblanks
  have hat := htakes.at?_eq before
  rw [List.cons_append, List.takeWhile_append_dropWhile] at hat
  exact ⟨_, hat, List.cons_ne_nil _ _⟩

theorem hyphen_not_mem_replaceFrom (before : List Char) (skip : Nat) (cs : List Char) :
    '-' ∉ hyphen.replaceFrom (fun _ => [' ']) before skip cs := by
  induction cs generalizing before skip with
  | nil => exact List.not_mem_nil
  | cons c cs ih =>
      cases skip with
      | succ skip => exact ih (c :: before) skip
      | zero =>
          have hkeep (hc : c ≠ '-') :
              '-' ∉ c :: hyphen.replaceFrom (fun _ => [' ']) (c :: before) 0 cs := by
            rw [List.mem_cons, not_or]
            exact ⟨hc.symm, ih (c :: before) 0⟩
          by_cases hc : c = '-'
          · subst hc
            obtain ⟨m, hat, htext⟩ := at?_hyphen before cs
            rw [replaceFrom, hat]
            dsimp only
            rw [if_neg (by simpa using htext), List.mem_append, not_or]
            exact ⟨by decide, ih ('-' :: before) _⟩
          · rw [replaceFrom]
            split
            · split
              · exact hkeep hc
              · rw [List.mem_append, not_or]
                exact ⟨by decide, ih (c :: before) _⟩
            · exact hkeep hc

theorem replaceAll_hyphen_eq_self {cs : List Char} (h : '-' ∉ cs) :
    hyphen.replaceAll (fun _ => [' ']) cs = cs := by
  have hnone : cs.any "-".toList.contains = false := by
    rw [List.any_eq_false]
    intro c hc hsign
    obtain rfl : c = '-' := by simpa using hsign
    exact h hc
  exact replaceFrom_eq_self (find?_eq_none needs_hyphen hnone)

/-! ### Cleaning -/

theorem toList_clean (text : String) : (clean text).toList =
    collapse (hyphen.replaceAll (fun _ => [' ']) (loneLetter.removeAll text.toList)) :=
  String.toList_ofList

theorem wordRuns_clean (text : String) : wordRuns (clean text).toList =
    (wordRuns text.toList).filter fun word => !isLoneLetter word := by
  rw [toList_clean, wordRuns_collapse, wordRuns_replaceAll_hyphen, wordRuns_removeAll]

theorem hyphen_not_mem_clean (text : String) : '-' ∉ (clean text).toList := by
  have hvisible (cs : List Char) : '-' ∈ visible cs ↔ '-' ∈ cs := by
    rw [visible, List.mem_filter]
    exact and_iff_left (by decide)
  rw [toList_clean, ← hvisible, visible_collapse, hvisible]
  exact hyphen_not_mem_replaceFrom [] 0 _

theorem not_isLoneLetter_of_mem_clean (text : String) :
    ∀ word ∈ wordRuns (clean text).toList, isLoneLetter word = false := by
  rw [wordRuns_clean]
  intro word hword
  simpa using (List.mem_filter.mp hword).2

theorem clean_clean (text : String) : clean (clean text) = clean text := by
  rw [clean, removeAll_loneLetter_eq_self (not_isLoneLetter_of_mem_clean text),
    replaceAll_hyphen_eq_self (hyphen_not_mem_clean text), toList_clean, collapse_collapse]
  rfl

/-- A cleaned text has no hyphen, no lone letter and no white space but single ones between its
other characters. Its words are those of the text but for lone letters, in their order, and nothing
in it is left to be cleaned. -/
theorem clean_words (text : String) :
    '-' ∉ (clean text).toList ∧ IsCollapsed (clean text).toList ∧
    (∀ word ∈ wordRuns (clean text).toList, isLoneLetter word = false) ∧
    wordRuns (clean text).toList =
      (wordRuns text.toList).filter (fun word => !isLoneLetter word) ∧
    clean (clean text) = clean text := by
  refine ⟨hyphen_not_mem_clean text, ?_, not_isLoneLetter_of_mem_clean text, wordRuns_clean text,
    clean_clean text⟩
  rw [toList_clean]
  exact isCollapsed_collapse _

end Residue

end PartSearch
