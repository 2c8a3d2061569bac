import PartSearch.Proofs.PhraseTables
import PartSearch.Proofs.StandingPhrases
import PartSearch.Reading.Kind

/-!
# Which keyword is found

The words for kinds of parts are tried from the longest to the shortest, and the first one that
stands in the text on its own is taken: `Keyword.extract_first`. A few words overlap themselves,
such as "dc-dc" in "dc-dc-dc"; of these a place may be hidden by the copy in front of it,
`Keyword.IsHidden`.
-/

namespace PartSearch

namespace Text

/-! ### Laps of a phrase -/

def laps (phrase : List Char) : List (List Char) :=
  ((List.range phrase.length).filter fun n =>
    0 < n && (phrase.drop n).isPrefixOf phrase).map phrase.take

theorem IsLap.mem_laps {phrase lap : List Char} (h : IsLap phrase lap) : lap ∈ laps phrase := by
  have hlt := h.length_lt
  obtain ⟨hne, shared, -, hphrase, hshared⟩ := h
  have hdrop : phrase.drop lap.length = shared := by rw [hphrase, List.drop_left]
  refine List.mem_map.mpr ⟨lap.length, List.mem_filter.mpr ⟨List.mem_range.mpr hlt, ?_⟩, ?_⟩
  · rw [hdrop, List.isPrefixOf_iff_prefix.mpr hshared, Bool.and_true, decide_eq_true_iff]
    exact List.length_pos_iff.mpr hne
  · rw [hphrase, List.take_left]

theorem isLap_of_mem_laps {phrase lap : List Char} (h : lap ∈ laps phrase) : IsLap phrase lap := by
  obtain ⟨n, hn, rfl⟩ := List.mem_map.mp h
  obtain ⟨hlt, hlap⟩ := List.mem_filter.mp hn
  rw [List.mem_range] at hlt
  rw [Bool.and_eq_true, decide_eq_true_iff, List.isPrefixOf_iff_prefix] at hlap
  refine ⟨?_, phrase.drop n, ?_, (List.take_append_drop n phrase).symm, hlap.2⟩
  · apply List.ne_nil_of_length_pos
    rw [List.length_take]
    omega
  · apply List.ne_nil_of_length_pos
    rw [List.length_drop]
    omega

end Text

namespace Keyword

open Text

/-! ### Words that overlap themselves -/

/-- The words that can overlap themselves with a boundary in front of the second copy, and what
stands there in front of it. -/
def overlapping : List (String × String) :=
  [("board to board", "board to "), ("dc dc", "dc "), ("dc-dc", "dc-")]

/-- One copy of a word laps into the place behind `before`, and no other copy into that one. -/
def IsHidden (word : String) (before : List Char) : Prop :=
  ∃ lap, (word, lap) ∈ overlapping ∧ lap.toList <:+ before ∧ ¬ lap.toList ++ lap.toList <:+ before

theorem toList_of_mem {entry : String × String} (h : entry ∈ partKeywords) :
    entry.1.toList = asciiChars entry.1 := by
  have hascii : ∀ entry ∈ partKeywords, ∀ b ∈ bytesOf entry.1, b < 128 := by decide +kernel
  exact toList_eq_asciiChars (hascii entry h)

theorem ne_nil_of_mem {entry : String × String} (h : entry ∈ partKeywords) :
    entry.1.toList ≠ [] := by
  have hne : ∀ entry ∈ partKeywords, entry.1 ≠ "" := by decide +kernel
  exact fun hnil => hne entry h (String.toList_eq_nil_iff.mp hnil)

theorem mem_overlapping {entry : String × String} (h : entry ∈ partKeywords) {lap : List Char}
    (hlap : IsLap entry.1.toList lap) (hfree : joinsPhrase lap.getLast? = false) :
    (entry.1, String.ofList lap) ∈ overlapping := by
  have htable : ∀ entry ∈ partKeywords, ∀ lap ∈ laps (asciiChars entry.1),
      joinsPhrase lap.getLast? = false → (entry.1, String.ofList lap) ∈ overlapping := by
    decide +kernel
  exact htable entry h lap (toList_of_mem h ▸ hlap.mem_laps) hfree

theorem laps_of_mem_overlapping : ∀ pair ∈ overlapping, laps pair.1.toList = [pair.2.toList] ∧
    joinsPhrase (pair.1.toList.drop (pair.1.toList.length - pair.2.toList.length)).head? =
      false := by
  decide +kernel

theorem lapsOnce_of_mem {entry : String × String} (h : entry ∈ partKeywords) :
    LapsOnce entry.1.toList := by
  refine ⟨fun lap other hlap hother hfree => ?_, fun lap hlap hfree => ?_⟩
  · have hall := (laps_of_mem_overlapping _ (mem_overlapping h hlap hfree)).1
    rw [String.toList_ofList] at hall
    have hmem := hother.mem_laps
    rwa [hall, List.mem_singleton] at hmem
  · have hbehind := (laps_of_mem_overlapping _ (mem_overlapping h hlap hfree)).2
    rwa [String.toList_ofList] at hbehind

theorem isHidden_iff {entry : String × String} (h : entry ∈ partKeywords) {before : List Char}
    (hfree : joinsPhrase before.getLast? = false) :
    Text.IsHidden entry.1.toList before ↔ IsHidden entry.1 before := by
  constructor
  · rintro ⟨lap, hlap, ⟨earlier, rfl⟩, honly⟩
    rw [hlap.getLast?_append] at hfree
    refine ⟨String.ofList lap, mem_overlapping h hlap hfree, ?_⟩
    rw [String.toList_ofList]
    exact ⟨List.suffix_append earlier lap, honly⟩
  · rintro ⟨lap, hmem, hsuffix, honly⟩
    have hall := (laps_of_mem_overlapping _ hmem).1
    exact ⟨lap.toList, isLap_of_mem_laps (hall ▸ List.mem_singleton_self _), hsuffix, honly⟩

/-! ### The keyword that is found -/

/-- A word stands in a text, up to the case of ASCII letters, and not only where it is hidden. -/
def Shows (text word : String) : Prop :=
  ∃ before, StandsBehind word.toList before (asciiLower text.toList) ∧ ¬ IsHidden word before

theorem shows_iff_phraseSpans {text : String} {entry : String × String}
    (h : entry ∈ partKeywords) :
    Shows text entry.1 ↔ phraseSpans (asciiLower text.toList) entry.1.toList ≠ [] := by
  rw [phraseSpans_ne_nil_iff (ne_nil_of_mem h) (lapsOnce_of_mem h)]
  refine exists_congr fun before => and_congr_right fun hstands => not_congr ?_
  obtain ⟨-, -, hfree, -⟩ := hstands
  exact (isHidden_iff h hfree).symm

theorem mem_all_iff {k : Keyword} : k ∈ all ↔ (k.word, k.subcategory) ∈ partKeywords := by
  rw [all, List.mem_map]
  constructor
  · rintro ⟨entry, hentry, rfl⟩
    exact List.mem_mergeSort.mp hentry
  · exact fun h => ⟨_, List.mem_mergeSort.mpr h, rfl⟩

theorem pairwise_all : all.Pairwise fun a b => NoShorter a.word b.word := by
  rw [all, List.pairwise_map]
  exact pairwise_longestFirst partKeywords

/-- The keyword that is found is the longest one that shows in the text, and of equally long ones
the first in the order of code points. None is found, and the text stays as it is, exactly if no
keyword shows in it. -/
theorem extract_first (text : String) :
    match (extract text).1 with
    | some k => (k.word, k.subcategory) ∈ partKeywords ∧ Shows text k.word ∧
        ∀ entry ∈ partKeywords, Shows text entry.1 → NoShorter k.word entry.1
    | none => (extract text).2 = text ∧ ∀ entry ∈ partKeywords, ¬ Shows text entry.1 := by
  have hshows {k : Keyword} (h : (k.word, k.subcategory) ∈ partKeywords) :
      (!(phraseSpans (asciiLower text.toList) k.word.toList).isEmpty) = true ↔
        Shows text k.word := by
    rw [shows_iff_phraseSpans h, Bool.not_eq_true', List.isEmpty_eq_false_iff]
  cases hfind : all.find? fun k =>
      !(phraseSpans (asciiLower text.toList) k.word.toList).isEmpty with
  | none =>
      simp only [extract, hfind]
      refine ⟨trivial, fun entry hentry hshown => ?_⟩
      have hmiss := List.find?_eq_none.mp hfind ⟨entry.1, entry.2⟩ (mem_all_iff.mpr hentry)
      exact hmiss ((hshows hentry).mpr hshown)
  | some k =>
      simp only [extract, hfind]
      obtain ⟨hk, earlier, later, hall, hearlier⟩ := List.find?_eq_some_iff_append.mp hfind
      have hmem := mem_all_iff.mp (List.mem_of_find?_eq_some hfind)
      refine ⟨hmem, (hshows hmem).mp hk, fun entry hentry hshown => ?_⟩
      have hentry' := mem_all_iff (k := ⟨entry.1, entry.2⟩).mpr hentry
      have hsorted := pairwise_all
      rw [hall] at hentry' hsorted
      -- An entry in front of `k` does not show, and one behind it is no longer than `k`.
      rcases List.mem_append.mp hentry' with hbefore | hbehind
      · have hmiss := hearlier _ hbefore
        rw [(hshows hentry).mpr hshown] at hmiss
        cases hmiss
      · rcases List.mem_cons.mp hbehind with rfl | hlater
        · exact NoShorter.refl _
        · exact List.rel_of_pairwise_cons (List.pairwise_append.mp hsorted).2.1 hlater

/-- The first "dc dc" in "5vdc dc dc" is no word of its own, and it hides the second one, which is
one. -/
theorem extract_misses_dcDc :
    extract "5vdc dc dc" = (none, "5vdc dc dc") ∧ ("dc dc", "dc-dc converters") ∈ partKeywords ∧
      Stands "dc dc".toList (asciiLower "5vdc dc dc".toList) := by
  have hnone : ∀ entry ∈ partKeywords,
      (phraseSpans (asciiLower "5vdc dc dc".toList) (asciiChars entry.1)).isEmpty = true := by
    decide +kernel
  refine ⟨?_, by decide +kernel, "5vdc ".toList, [], by decide +kernel⟩
  have hfind : (all.find? fun k =>
      !(phraseSpans (asciiLower "5vdc dc dc".toList) k.word.toList).isEmpty) = none := by
    refine List.find?_eq_none.mpr fun k hk => ?_
    rw [toList_of_mem (mem_all_iff.mp hk), hnone _ (mem_all_iff.mp hk)]
    exact Bool.false_ne_true
  rw [extract, hfind]

end Keyword

end PartSearch
