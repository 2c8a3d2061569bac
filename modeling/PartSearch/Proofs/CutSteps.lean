import PartSearch.Proofs.CutTraces
import PartSearch.Proofs.LetterCase

/-!
# Cutting a phrase out, step by step

Cutting a phrase out of a text and collapsing the white space that is left rewrites the text by
small steps: `clears_cut`. It also does the same to a text and to its lowered form:
`cut_asciiLower`.
-/

namespace PartSearch.Text

open Pattern

/-! ### Collapsing white space -/

section Collapsing

variable {found : List (List Char)} {c d : Char} {cs : List Char}

theorem joinWith_cons_piece (separator : List Char) (c : Char) (piece : List Char)
    (pieces : List (List Char)) :
    joinWith separator ((c :: piece) :: pieces) = c :: joinWith separator (piece :: pieces) := by
  cases pieces <;> rfl

/-- What a text is behind a word: its words with a space in front, if there are any. -/
def spaced (cs : List Char) : List Char := if cs = [] then [] else ' ' :: cs

theorem collapse_cons_of_blank (hc : isBlank c = true) : collapse (c :: cs) = collapse cs := by
  simp [collapse, words, runsBetween, splitAt, hc]

theorem collapse_singleton (hc : isBlank c = false) : collapse [c] = [c] := by
  simp [collapse, words, runsBetween, splitAt, hc, joinWith]

theorem collapse_cons_cons (hc : isBlank c = false) (hd : isBlank d = false) :
    collapse (c :: d :: cs) = c :: collapse (d :: cs) := by
  cases hsplit : splitAt isBlank cs with
  | nil => exact absurd hsplit (splitAt_ne_nil isBlank cs)
  | cons piece pieces =>
      simp [collapse, words, runsBetween, splitAt, hc, hd, hsplit, joinWith_cons_piece]

theorem collapse_cons_ne_nil (hc : isBlank c = false) (cs : List Char) :
    collapse (c :: cs) ≠ [] := by
  cases hsplit : splitAt isBlank cs with
  | nil => exact absurd hsplit (splitAt_ne_nil isBlank cs)
  | cons piece pieces =>
      simp [collapse, words, runsBetween, splitAt, hc, hsplit, joinWith_cons_piece]

theorem collapse_eq_nil_iff : collapse cs = [] ↔ words cs = [] := by
  refine ⟨fun hnil => ?_, fun hnil => by rw [collapse, hnil, joinWith]⟩
  cases hwords : words cs with
  | nil => rfl
  | cons word rest =>
      have hmem : word ∈ words cs := hwords ▸ List.mem_cons_self
      obtain ⟨c, word, rfl⟩ : ∃ c letters, word = c :: letters := by
        cases word with
        | nil => simp [words, runsBetween] at hmem
        | cons c letters => exact ⟨c, letters, rfl⟩
      rw [collapse, hwords, joinWith_cons_piece] at hnil
      cases hnil

theorem collapse_cons_of_end (hc : isBlank c = false) (hd : isBlank d = true) :
    collapse (c :: d :: cs) = c :: spaced (collapse cs) := by
  have hwords : words (c :: d :: cs) = [c] :: words cs := by
    simp [words, runsBetween, splitAt, hc, hd]
  simp only [spaced, collapse_eq_nil_iff]
  rw [collapse, hwords, joinWith_cons_piece, collapse]
  cases words cs with
  | nil => rfl
  | cons word rest => rfl

theorem Spread.of_blank {gap : List Char} (hne : gap ≠ []) (hblank : ∀ c ∈ gap, isBlank c = true) :
    Spread found [' '] gap := by
  induction gap with
  | nil => exact absurd rfl hne
  | cons c gap ih =>
      obtain ⟨hc, hgap⟩ := List.forall_mem_cons.mp hblank
      by_cases hempty : gap = []
      · rw [hempty]
        exact .blank hc .nil
      · exact .squeeze (.blank hc (ih hempty hgap))

theorem isGap_blank {before gap after : List Char} (hne : gap ≠ [])
    (hblank : ∀ c ∈ gap, isBlank c = true) : IsGap found before gap after where
  ne_nil := hne
  spread := Spread.of_blank hne hblank
  left := Or.inl (joinsPhrase_head?_blank hblank)
  right := Or.inl (joinsPhrase_getLast?_blank hblank)

/-- Behind a visible character the rest of a text is collapsed, and so it is behind a space. -/
theorem clears_behind (cs : List Char) :
    (∀ before c, isBlank c = false →
      Clears found (before ++ c :: cs) (before ++ collapse (c :: cs))) ∧
    ∀ before, Clears found (before ++ ' ' :: cs) (before ++ spaced (collapse cs)) := by
  -- White space leads from the first part to the second one, and a visible character back.
  induction cs with
  | nil =>
      refine ⟨fun before c hc => ?_, fun before => ?_⟩
      · rw [collapse_singleton hc]
        exact .refl
      · have htrim : Step found ([] ++ (before ++ [' '])) before :=
          .trim (by simp) (by simp; decide)
        rw [show spaced (collapse []) = [] from rfl, List.append_nil]
        exact .single htrim
  | cons d cs ih =>
      obtain ⟨hvisible, hspace⟩ := ih
      cases hd : isBlank d with
      | false =>
          have hcollapse (before : List Char) := hvisible before d hd
          refine ⟨fun before c hc => ?_, fun before => ?_⟩
          · rw [collapse_cons_cons hc hd]
            simpa using hcollapse (before ++ [c])
          · rw [spaced, if_neg (collapse_cons_ne_nil hd cs)]
            simpa using hcollapse (before ++ [' '])
      | true =>
          have hsqueeze (before : List Char) :
              Clears found (before ++ ' ' :: d :: cs) (before ++ spaced (collapse cs)) := by
            have hgap : IsGap found before [' ', d] cs :=
              isGap_blank (by simp) (by simp [hd]; decide)
            exact .head (.gap hgap) (hspace before)
          refine ⟨fun before c hc => ?_, fun before => ?_⟩
          · have hgap : IsGap found (before ++ [c]) [d] cs := isGap_blank (by simp) (by simpa)
            have hstep := Step.gap hgap
            rw [collapse_cons_of_end hc hd]
            have hrest := hspace (before ++ [c])
            simp only [List.append_assoc, List.singleton_append] at hstep hrest
            exact .head hstep hrest
          · rw [collapse_cons_of_blank hd]
            exact hsqueeze before

theorem clears_collapse (cs : List Char) : Clears found cs (collapse cs) := by
  induction cs with
  | nil => exact .refl
  | cons c cs ih =>
      cases hc : isBlank c with
      | true =>
          rw [collapse_cons_of_blank hc]
          have htrim : Step found ([c] ++ (cs ++ [])) cs := .trim (by simpa) (by simp)
          rw [List.append_nil] at htrim
          exact .head htrim ih
      | false => exact (clears_behind cs).1 [] c hc

end Collapsing

/-! ### Cutting a phrase out -/

section Cutting

variable {found : List (List Char)} {phrase : List Char}

/-- A span covers a phrase that stands on its own in a text which begins at the position `first`. -/
def Covers (phrase : List Char) (first : Nat) (cs : List Char) (s : Span) : Prop :=
  ∃ before after, cs = before ++ (phrase ++ after) ∧
    s = ⟨first + before.length, first + before.length + phrase.length⟩ ∧
    joinsPhrase before.getLast? = false ∧ joinsPhrase after.head? = false

theorem covers_of_mem_phraseSpans {cs : List Char} {s : Span} (h : s ∈ phraseSpans cs phrase) :
    Covers phrase 0 cs s := by
  obtain ⟨m, hm, rfl⟩ := List.mem_map.mp h
  obtain ⟨hlisted, hfree⟩ := List.mem_filter.mp hm
  rw [Bool.and_eq_true, Bool.not_eq_true', Bool.not_eq_true'] at hfree
  obtain ⟨htext, hwhole⟩ := found_of_mem_findAllFrom hlisted
  refine ⟨m.before.reverse, m.after, hwhole, ?_, by rw [List.getLast?_reverse]; exact hfree.1,
    hfree.2⟩
  simp [Found.start, Found.stop, htext]

theorem Covers.tail {first : Nat} {before after : List Char} {t : Span}
    (h : Covers phrase first (before ++ (phrase ++ after)) t)
    (hbehind : first + before.length + phrase.length ≤ t.start) :
    Covers phrase (first + before.length + phrase.length) after t := by
  obtain ⟨front, back, hwhole, rfl, hfront, hback⟩ := h
  obtain ⟨middle, rfl⟩ : before ++ phrase <+: front := by
    have hprefix : before ++ phrase <+: before ++ (phrase ++ after) :=
      ⟨after, List.append_assoc before phrase after⟩
    refine List.prefix_of_prefix_length_le (hwhole ▸ hprefix) (List.prefix_append _ _) ?_
    rw [List.length_append]
    dsimp only at hbehind
    omega
  refine ⟨middle, back, ?_, ?_, ?_, hback⟩
  · simpa only [List.append_assoc, List.append_cancel_left_eq] using hwhole
  · simp only [List.length_append, Nat.add_assoc]
  · cases middle with
    | nil => rfl
    | cons c middle => rwa [List.getLast?_append_of_ne_nil _ (List.cons_ne_nil c middle)] at hfront

theorem isGap_phrase {before after : List Char} (hmem : phrase ∈ found) (hne : phrase ≠ [])
    (hbefore : joinsPhrase before.getLast? = false) (hafter : joinsPhrase after.head? = false) :
    IsGap found before phrase after where
  ne_nil := hne
  spread := by
    have hcut : Spread found [' '] (phrase ++ []) := .cut hmem hne (Spread.refl found phrase) .nil
    rwa [List.append_nil] at hcut
  left := Or.inr ⟨hbefore, hmem⟩
  right := Or.inr hafter

theorem clears_blanked (hmem : phrase ∈ found) (hne : phrase ≠ []) {first last : Nat}
    {cs : List Char} {spans : List Span} (h : Span.Apart first last spans)
    (hlast : last ≤ first + cs.length) (hcovers : ∀ s ∈ spans, Covers phrase first cs s)
    (front : List Char) (hfront : joinsPhrase front.getLast? = false) :
    Clears found (front ++ cs) (front ++ Span.blanked first cs spans) := by
  -- `front` is what the spans before these have left; it ends in a space, so it joins nothing.
  induction spans generalizing first cs front with
  | nil =>
      rw [Span.blanked_nil]
      exact .refl
  | cons s rest ih =>
      obtain ⟨before, after, rfl, rfl, hbefore, hafter⟩ := hcovers s List.mem_cons_self
      have hblanked : Span.blanked first (before ++ (phrase ++ after))
          (⟨first + before.length, first + before.length + phrase.length⟩ :: rest) =
          before ++ ' ' :: Span.blanked (first + before.length + phrase.length) after rest := by
        rw [Span.blanked_cons _ h hlast]
        simp [Nat.add_assoc]
      have hleft := joinsPhrase_getLast?_append hfront hbefore
      have hstep := Step.gap (isGap_phrase hmem hne hleft hafter)
      have hrest := ih h.tail (by simp only [List.length_append] at hlast; dsimp only; omega)
        (fun t ht => (hcovers t (List.mem_cons_of_mem _ ht)).tail (h.tail.within t ht).1)
        (front ++ (before ++ [' '])) (by simp; decide)
      rw [hblanked]
      simp only [List.append_assoc, List.singleton_append] at hstep hrest
      exact .head hstep hrest

/-- A text from which a phrase is cut is rewritten by small steps. -/
theorem clears_cut (hmem : phrase ∈ found) (hne : phrase ≠ []) (cs : List Char) :
    Clears found cs (Span.cut cs (phraseSpans cs phrase)) := by
  have hapart := apart_phraseSpans cs phrase
  rw [Span.cut_eq hapart]
  split
  · exact .refl
  · have hblanked := clears_blanked hmem hne hapart (by omega)
      (fun s hs => covers_of_mem_phraseSpans hs) [] rfl
    exact hblanked.trans (clears_collapse _)

end Cutting

/-! ### Letter case -/

theorem splitAt_asciiLower (cs : List Char) :
    splitAt isBlank (asciiLower cs) = (splitAt isBlank cs).map asciiLower := by
  induction cs with
  | nil => rfl
  | cons c cs ih =>
      rw [asciiLower_cons, splitAt, splitAt, isBlank_toLower, ih]
      cases splitAt isBlank cs with
      | nil => by_cases hc : isBlank c = true <;> simp [hc]
      | cons piece pieces => by_cases hc : isBlank c = true <;> simp [hc]

theorem joinWith_map_asciiLower {separator : List Char} (h : asciiLower separator = separator)
    (pieces : List (List Char)) :
    joinWith separator (pieces.map asciiLower) = asciiLower (joinWith separator pieces) := by
  induction pieces with
  | nil => rfl
  | cons piece pieces ih =>
      cases pieces with
      | nil => rfl
      | cons next rest =>
          change asciiLower piece ++ separator ++
              joinWith separator ((next :: rest).map asciiLower) =
            asciiLower (piece ++ separator ++ joinWith separator (next :: rest))
          rw [ih, asciiLower_append, asciiLower_append, h]

theorem collapse_asciiLower (cs : List Char) :
    collapse (asciiLower cs) = asciiLower (collapse cs) := by
  have hwords : words (asciiLower cs) = (words cs).map asciiLower := by
    rw [words, words, runsBetween, runsBetween, splitAt_asciiLower, List.filter_map]
    congr 2
    funext piece
    simp [asciiLower]
  rw [collapse, collapse, hwords, joinWith_map_asciiLower rfl]

theorem piecesFrom_asciiLower (position : Nat) (cs : List Char) (spans : List Span) :
    Span.piecesFrom position (asciiLower cs) spans =
      (Span.piecesFrom position cs spans).map asciiLower := by
  induction spans generalizing position cs with
  | nil => rfl
  | cons s rest ih =>
      have htake : (asciiLower cs).take (s.start - position) =
          asciiLower (cs.take (s.start - position)) := List.map_take.symm
      have hdrop : (asciiLower cs).drop (s.stop - position) =
          asciiLower (cs.drop (s.stop - position)) := List.map_drop.symm
      rw [Span.piecesFrom, Span.piecesFrom, List.map_cons, htake, hdrop, ih]

theorem cut_asciiLower (cs : List Char) (spans : List Span) :
    Span.cut (asciiLower cs) spans = asciiLower (Span.cut cs spans) := by
  rw [Span.cut, Span.cut]
  split
  · rfl
  · rw [piecesFrom_asciiLower, joinWith_map_asciiLower rfl, collapse_asciiLower]

end PartSearch.Text
