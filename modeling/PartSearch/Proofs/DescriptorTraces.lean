import PartSearch.Proofs.CutSteps
import PartSearch.Proofs.PhraseTables
import PartSearch.Reading.Descriptor

/-!
# Where descriptor phrases come from

Each phrase that is found is cut out of the text before the next one is looked for. The first one,
and every one without a space, stands in the text on its own. Any other may be put together from
words that only the cuts have made neighbours: `Descriptor.extract_traces` says what stood between
them.
-/

namespace PartSearch.Descriptor

open Text

/-! ### The table of phrases -/

section Table

variable {entry : String × SpecFilter}

theorem toList_of_mem (h : entry ∈ table) : entry.1.toList = asciiChars entry.1 := by
  have hascii : ∀ entry ∈ table, ∀ b ∈ bytesOf entry.1, b < 128 := by decide +kernel
  exact toList_eq_asciiChars (hascii entry h)

theorem joins_head?_of_mem (h : entry ∈ table) : joinsPhrase entry.1.toList.head? = true := by
  have hjoins : ∀ entry ∈ table, joinsPhrase (asciiChars entry.1).head? = true := by
    decide +kernel
  rw [toList_of_mem h]
  exact hjoins entry h

theorem ne_nil_of_mem (h : entry ∈ table) : entry.1.toList ≠ [] := by
  intro hnil
  have hjoins := joins_head?_of_mem h
  rw [hnil] at hjoins
  cases hjoins

theorem joins_getLast?_of_mem (h : entry ∈ table) (hspace : ' ' ∉ entry.1.toList) :
    joinsPhrase entry.1.toList.getLast? = true := by
  have hjoins : ∀ entry ∈ table, ' ' ∉ asciiChars entry.1 →
      joinsPhrase (asciiChars entry.1).getLast? = true := by
    decide +kernel
  rw [toList_of_mem h] at hspace ⊢
  exact hjoins entry h hspace

theorem mem_phrases_iff {d : Descriptor} : d ∈ phrases ↔ (d.phrase, d.filter) ∈ table := by
  rw [phrases, List.mem_map]
  constructor
  · rintro ⟨entry, hentry, rfl⟩
    exact List.mem_mergeSort.mp hentry
  · exact fun h => ⟨_, List.mem_mergeSort.mpr h, rfl⟩

theorem pairwise_phrases : phrases.Pairwise fun a b => NoShorter a.phrase b.phrase := by
  rw [phrases, List.pairwise_map]
  exact pairwise_longestFirst table

end Table

/-! ### Phrase after phrase -/

def phrasesOf (found : List Descriptor) : List (List Char) := found.map (·.phrase.toList)

/-- What has been found so far in a text, and its rest: the rest is what the cuts leave, and each
phrase stood in what the cuts before it left. -/
structure Taken (text : List Char) (found : List Descriptor) (rest : List Char) : Prop where
  clears : Clears (phrasesOf found) (asciiLower text) (asciiLower rest)
  untouched : found = [] → rest = text
  stands : ∀ earlier d later, found = earlier ++ d :: later →
    (d.phrase, d.filter) ∈ table ∧ ∃ middle, Clears (phrasesOf earlier) (asciiLower text) middle ∧
      (earlier = [] → middle = asciiLower text) ∧ Stands d.phrase.toList middle

section Taken

variable {text rest : List Char} {found : List Descriptor} {d : Descriptor}

theorem taken_nil (text : List Char) : Taken text [] text where
  clears := .refl
  untouched := fun _ => rfl
  stands := by simp

theorem take_of_phraseSpans (h : phraseSpans (asciiLower rest) d.phrase.toList = []) :
    take (found, rest) d = (found, rest) := by
  simp [take, h]

theorem take_of_phraseSpans_ne_nil (h : phraseSpans (asciiLower rest) d.phrase.toList ≠ []) :
    take (found, rest) d = (found ++ [d],
      Span.cut rest (phraseSpans (asciiLower rest) d.phrase.toList)) := by
  simp [take, h]

theorem Taken.take (hd : (d.phrase, d.filter) ∈ table) (h : Taken text found rest) :
    Taken text (take (found, rest) d).1 (take (found, rest) d).2 := by
  by_cases hspans : phraseSpans (asciiLower rest) d.phrase.toList = []
  · rwa [take_of_phraseSpans hspans]
  · rw [take_of_phraseSpans_ne_nil hspans]
    have hsub : phrasesOf found ⊆ phrasesOf (found ++ [d]) := by simp [phrasesOf]
    have hmem : d.phrase.toList ∈ phrasesOf (found ++ [d]) := by simp [phrasesOf]
    refine ⟨?_, by simp, fun earlier d' later hsplit => ?_⟩
    · rw [← cut_asciiLower]
      exact (h.clears.mono hsub).trans (clears_cut hmem (ne_nil_of_mem hd) _)
    · -- The new phrase stood in the rest so far, and where the others stood is known.
      rcases List.eq_nil_or_concat' later with rfl | ⟨later, last, rfl⟩
      · obtain ⟨rfl, hlast⟩ := List.append_inj' hsplit rfl
        obtain rfl := List.head_eq_of_cons_eq hlast
        refine ⟨hd, asciiLower rest, h.clears, fun hnil => ?_, stands_of_phraseSpans_ne_nil hspans⟩
        rw [h.untouched hnil]
      · rw [← List.cons_append, ← List.append_assoc] at hsplit
        exact h.stands earlier d' later (List.append_inj' hsplit rfl).1

theorem Taken.foldl_take {ds : List Descriptor} (hds : ∀ d ∈ ds, (d.phrase, d.filter) ∈ table)
    (h : Taken text found rest) :
    Taken text (ds.foldl Descriptor.take (found, rest)).1
      (ds.foldl Descriptor.take (found, rest)).2 := by
  induction ds generalizing found rest with
  | nil => exact h
  | cons d ds ih =>
      obtain ⟨hd, hds⟩ := List.forall_mem_cons.mp hds
      exact ih hds (h.take hd)

end Taken

/-! ### Words that become neighbours -/

theorem foldl_take_of_phraseSpans {found : List Descriptor} {rest : List Char}
    {ds : List Descriptor} (h : ∀ d ∈ ds, phraseSpans (asciiLower rest) d.phrase.toList = []) :
    ds.foldl take (found, rest) = (found, rest) := by
  induction ds with
  | nil => rfl
  | cons d ds ih =>
      obtain ⟨hd, hds⟩ := List.forall_mem_cons.mp h
      rw [List.foldl_cons, take_of_phraseSpans hd, ih hds]

/-- If a single phrase of the table stands in a text, it is the next one that is found. -/
theorem foldl_take_of_only (found : List Descriptor) (rest : List Char) {ds : List Descriptor}
    {d : Descriptor} (hd : d ∈ ds) (hds : ds ⊆ phrases)
    (honly : ∀ entry ∈ table, entry ≠ (d.phrase, d.filter) →
      phraseSpans (asciiLower rest) (asciiChars entry.1) = []) :
    ∃ earlier later, ds = earlier ++ d :: later ∧
      ds.foldl take (found, rest) = later.foldl take (take (found, rest) d) := by
  obtain ⟨earlier, later, rfl, hfirst⟩ := List.eq_append_cons_of_mem hd
  have hearlier : earlier.foldl take (found, rest) = (found, rest) := by
    apply foldl_take_of_phraseSpans
    intro e he
    have hmem := mem_phrases_iff.mp (hds (List.mem_append_left _ he))
    rw [toList_of_mem hmem]
    refine honly _ hmem fun heq => ?_
    obtain ⟨hphrase, hfilter⟩ := Prod.mk.inj heq
    have hsame : e = d := by
      rw [Descriptor.mk.injEq]
      exact ⟨hphrase, hfilter⟩
    exact hfirst (hsame ▸ he)
  exact ⟨earlier, later, rfl, by rw [List.foldl_append, List.foldl_cons, hearlier]⟩

theorem extract_lowBidirectionalVgs : extract "low bidirectional vgs" =
    ([⟨"bidirectional", ⟨"Polarity", .eq, "Bidirectional"⟩⟩,
      ⟨"low vgs", ⟨"Vgs(th)", .lt, "2.5V"⟩⟩], "") := by
  generalize hfirst : (⟨"bidirectional", ⟨"Polarity", .eq, "Bidirectional"⟩⟩ : Descriptor) = first
  generalize hsecond : (⟨"low vgs", ⟨"Vgs(th)", .lt, "2.5V"⟩⟩ : Descriptor) = second
  have hmem : first ∈ phrases ∧ second ∈ phrases := by
    rw [mem_phrases_iff, mem_phrases_iff, ← hfirst, ← hsecond]
    decide +kernel
  obtain ⟨earlier, later, hphrases, hrun⟩ := foldl_take_of_only []
    "low bidirectional vgs".toList hmem.1 (List.Subset.refl _)
    (by subst hfirst; decide +kernel)
  -- The second phrase is shorter, so it is still to come, and its words are neighbours by then.
  have hbehind : second ∈ later := by
    have hsorted := pairwise_phrases
    rw [hphrases, List.pairwise_append] at hsorted
    have hsecond' := hmem.2
    rw [hphrases, List.mem_append, List.mem_cons] at hsecond'
    rcases hsecond' with hbefore | hsame | hbehind
    · have hshorter := hsorted.2.2 second hbefore first List.mem_cons_self
      subst hfirst hsecond
      exact absurd hshorter (by decide +kernel)
    · subst hfirst hsecond
      exact absurd hsame (by decide)
    · exact hbehind
  have hsub : later ⊆ phrases := by
    rw [hphrases]
    simp
  obtain ⟨between, rest, -, hrun'⟩ := foldl_take_of_only [first]
    "low vgs".toList hbehind hsub (by subst hsecond; decide +kernel)
  have htake : take ([], "low bidirectional vgs".toList) first = ([first], "low vgs".toList) := by
    subst hfirst
    decide +kernel
  have htake' : take ([first], "low vgs".toList) second = ([first, second], []) := by
    subst hfirst hsecond
    decide +kernel
  rw [extract, hrun, htake, hrun', htake', foldl_take_of_phraseSpans fun _ _ => rfl]

/-! ### What is found -/

/-- The first phrase that is found, and every one without a space, stands in the text on its own.
Every other one comes from a piece of the text that may have more in place of its space: white
space, and phrases found before it. -/
theorem extract_traces {text : String} {earlier later : List Descriptor} {d : Descriptor}
    (h : (extract text).1 = earlier ++ d :: later) :
    (earlier = [] ∨ ' ' ∉ d.phrase.toList →
      Stands d.phrase.toList (asciiLower text.toList)) ∧
    ∃ before piece after, asciiLower text.toList = before ++ (piece ++ after) ∧
      Spread (phrasesOf earlier) d.phrase.toList piece ∧
      joinsPhrase before.getLast? = false ∧
      EndsApart (phrasesOf earlier) d.phrase.toList after := by
  have htaken : Taken text.toList (extract text).1
      (phrases.foldl Descriptor.take ([], text.toList)).2 :=
    (taken_nil text.toList).foldl_take fun d hd => mem_phrases_iff.mp hd
  obtain ⟨hd, middle, hclears, huntouched, before, after, hmiddle, hbefore, hafter⟩ :=
    htaken.stands earlier d later h
  -- The phrase stood between boundaries in what the earlier cuts had left of the text.
  obtain ⟨start, piece, behind, htrace⟩ :=
    hclears.traces before d.phrase.toList after (ne_nil_of_mem hd) hmiddle
  have hstart := htrace.starts (joins_head?_of_mem hd) hbefore
  have hends := htrace.ends hafter
  refine ⟨fun hcase => ?_, start, piece, behind, htrace.whole, htrace.spread, hstart, hends⟩
  rcases hcase with hfirst | hspace
  · rw [← huntouched hfirst]
    exact ⟨before, after, hmiddle, hbefore, hafter⟩
  · have hpiece := htrace.spread.eq_of_not_mem hspace
    refine ⟨start, behind, hpiece ▸ htrace.whole, hstart, hends.resolve_right fun hlast => ?_⟩
    rw [joins_getLast?_of_mem hd hspace] at hlast
    exact Bool.noConfusion hlast.1

/-- In "low bidirectional vgs" the second phrase comes from the whole text, of which the first one
was cut out. -/
theorem extract_traces_lowBidirectionalVgs :
    (extract "low bidirectional vgs").1 = [⟨"bidirectional", ⟨"Polarity", .eq, "Bidirectional"⟩⟩] ++
      ⟨"low vgs", ⟨"Vgs(th)", .lt, "2.5V"⟩⟩ :: [] ∧
    ∃ before piece after, asciiLower "low bidirectional vgs".toList = before ++ (piece ++ after) ∧
      Spread ["bidirectional".toList] "low vgs".toList piece ∧
      joinsPhrase before.getLast? = false ∧
      EndsApart ["bidirectional".toList] "low vgs".toList after := by
  have hfound : (extract "low bidirectional vgs").1 =
      [⟨"bidirectional", ⟨"Polarity", .eq, "Bidirectional"⟩⟩] ++
        ⟨"low vgs", ⟨"Vgs(th)", .lt, "2.5V"⟩⟩ :: [] := by
    rw [extract_lowBidirectionalVgs]
    rfl
  exact ⟨hfound, (extract_traces hfound).2⟩

/-- The phrase "low vgs" is found in "low bidirectional vgs", where it does not stand. -/
theorem extract_assembles_lowVgs :
    ⟨"low vgs", ⟨"Vgs(th)", .lt, "2.5V"⟩⟩ ∈ (extract "low bidirectional vgs").1 ∧
      ¬ Stands "low vgs".toList (asciiLower "low bidirectional vgs".toList) := by
  rw [extract_lowBidirectionalVgs]
  refine ⟨by simp, ?_⟩
  rintro ⟨before, after, hwhole, -⟩
  have hinfix : "low vgs".toList <:+: asciiLower "low bidirectional vgs".toList :=
    ⟨before, after, by rw [hwhole, List.append_assoc]⟩
  exact absurd hinfix (by decide +kernel)

end PartSearch.Descriptor
