import PartSearch.Proofs.CutSteps
import PartSearch.Reading.Descriptor
import PartSearch.Reading.Kind

/-!
# Phrases in bytes

A phrase is looked for in a text in small letters, and what is found of it is cut out of the text
itself. If places are told by bytes, that can only work because a capital has as many bytes as its
small letter: then the n-th character begins at the same byte in both texts (`byteOf_asciiLower`).
So every range of `occurrences` has characters of the text at its ends, and `cut?`, which fails
outside of the text and inside of a character, gives what the spans of characters give.
-/

namespace PartSearch

/-- A stretch of a text, from one byte up to another. -/
structure ByteRange where
  start : String.Pos.Raw
  stop : String.Pos.Raw
deriving DecidableEq

namespace Text

/-! ### Bytes of characters -/

theorem utf8Size_toLower (c : Char) : c.toLower.utf8Size = c.utf8Size := by
  rcases toLower_eq_self_or c with hsame | ⟨hfirst, hlast, hcode⟩
  · rw [hsame]
  · have hone (d : Char) (hd : d.toNat ≤ 127) : d.utf8Size = 1 :=
      Char.utf8Size_eq_one_iff.mpr (UInt32.le_iff_toNat_le.mpr hd)
    rw [hone c (by omega), hone c.toLower (by omega)]

theorem utf8ByteSize_asciiLower (cs : List Char) :
    (String.ofList (asciiLower cs)).utf8ByteSize = (String.ofList cs).utf8ByteSize := by
  induction cs with
  | nil => rfl
  | cons c cs ih =>
      rw [asciiLower_cons, String.ofList_cons, String.ofList_cons, String.utf8ByteSize_append,
        String.utf8ByteSize_append, String.utf8ByteSize_singleton, String.utf8ByteSize_singleton,
        utf8Size_toLower, ih]

/-- The byte at which a character of a text begins. -/
def byteOf (cs : List Char) (position : Nat) : String.Pos.Raw :=
  (String.ofList (cs.take position)).rawEndPos

theorem byteOf_asciiLower (cs : List Char) (position : Nat) :
    byteOf (asciiLower cs) position = byteOf cs position := by
  apply String.Pos.Raw.ext
  rw [byteOf, byteOf, asciiLower, ← List.map_take]
  exact utf8ByteSize_asciiLower (cs.take position)

theorem byteOf_append_length (before after : List Char) :
    byteOf (before ++ after) before.length = (String.ofList before).rawEndPos := by
  rw [byteOf, List.take_left]

theorem byteOf_length (cs : List Char) : byteOf cs cs.length = (String.ofList cs).rawEndPos := by
  rw [byteOf, List.take_length]

theorem take_append_drop_take (cs : List Char) {first last : Nat} (h : first ≤ last) :
    cs.take first ++ (cs.take last).drop first = cs.take last := by
  calc
    cs.take first ++ (cs.take last).drop first =
        (cs.take last).take first ++ (cs.take last).drop first := by
      rw [List.take_take, Nat.min_eq_left h]
    _ = cs.take last := List.take_append_drop first (cs.take last)

theorem isValid_rawEndPos_append (before after : String) :
    before.rawEndPos.IsValid (before ++ after) :=
  String.Pos.Raw.isValid_iff_exists_append.mpr ⟨before, after, rfl, rfl⟩

theorem byteOf_mono (cs : List Char) {first last : Nat} (h : first ≤ last) :
    byteOf cs first ≤ byteOf cs last := by
  rw [byteOf, byteOf, ← take_append_drop_take cs h, String.ofList_append]
  exact (isValid_rawEndPos_append _ _).le_rawEndPos

/-! ### Slices -/

/-- The text from one byte up to another, if they are in order and characters begin there. -/
def slice? (text : String) (first last : String.Pos.Raw) : Option String :=
  if h : first.IsValid text ∧ last.IsValid text ∧ first ≤ last then
    some (text.slice (text.pos first h.1) (text.pos last h.2.1) h.2.2).copy
  else none

theorem slice?_append (before found after : String) :
    slice? (before ++ found ++ after) before.rawEndPos (before ++ found).rawEndPos =
      some found := by
  have hassoc : before ++ found ++ after = before ++ (found ++ after) := String.append_assoc
  have hfirst : before.rawEndPos.IsValid (before ++ found ++ after) :=
    hassoc ▸ isValid_rawEndPos_append before (found ++ after)
  have hlast : (before ++ found).rawEndPos.IsValid (before ++ found ++ after) :=
    isValid_rawEndPos_append (before ++ found) after
  obtain ⟨horder, hcopy⟩ : ∃ horder, ((before ++ found ++ after).slice
      ((before ++ found ++ after).pos _ hfirst) ((before ++ found ++ after).pos _ hlast)
        horder).copy = found :=
    String.copy_slice_eq_iff_splits.mpr ⟨before, after, ⟨hassoc, rfl⟩, ⟨rfl, rfl⟩⟩
  rw [slice?, dif_pos ⟨hfirst, hlast, horder⟩, hcopy]

theorem slice?_byteOf (cs : List Char) {first last : Nat} (h : first ≤ last) :
    slice? (String.ofList cs) (byteOf cs first) (byteOf cs last) =
      some (String.ofList ((cs.take last).drop first)) := by
  have hslice := slice?_append (String.ofList (cs.take first))
    (String.ofList ((cs.take last).drop first)) (String.ofList (cs.drop last))
  rwa [← String.ofList_append, take_append_drop_take cs h, ← String.ofList_append,
    List.take_append_drop] at hslice

/-! ### Ranges of a phrase -/

/-- The bytes of a span of a text. -/
def ofSpan (cs : List Char) (s : Span) : ByteRange := ⟨byteOf cs s.start, byteOf cs s.stop⟩

/-- Where a phrase stands in a text with nothing beside it that would join it to a longer word. -/
def occurrences (haystack phrase : String) : List ByteRange :=
  (phraseSpans haystack.toList phrase.toList).map (ofSpan haystack.toList)

/-- A phrase stands in a range of a text, in any case of its ASCII letters, and nothing beside it
joins it to a longer word. -/
structure Holds (text phrase : String) (r : ByteRange) : Prop where
  start_isValid : r.start.IsValid text
  stop_isValid : r.stop.IsValid text
  start_lt_stop : r.start < r.stop
  stop_le : r.stop ≤ text.rawEndPos
  surroundings : ∃ before found after, text = before ++ found ++ after ∧
    r = ⟨before.rawEndPos, (before ++ found).rawEndPos⟩ ∧
    slice? text r.start r.stop = some found ∧ sameText found phrase = true ∧
    joinsPhrase before.toList.getLast? = false ∧ joinsPhrase after.toList.head? = false

theorem joinsPhrase_map_toLower (c : Option Char) :
    joinsPhrase (c.map Char.toLower) = joinsPhrase c := by
  cases c with
  | none => rfl
  | some c =>
      have hline : (c.toLower = '_') = (c = '_') := propext (toLower_eq_iff (by decide))
      simp only [joinsPhrase, Option.map_some, Option.getD_some, isAlphanumeric_toLower, hline]

/-- What covers a phrase in the small letters of a text covers it in the text. -/
theorem covers_of_asciiLower {cs phrase : List Char} {s : Span}
    (h : Covers phrase 0 (asciiLower cs) s) :
    ∃ found, asciiLower found = phrase ∧ Covers found 0 cs s := by
  obtain ⟨before, after, hwhole, hspan, hbefore, hafter⟩ := h
  obtain ⟨front, rest, rfl, rfl, hrest⟩ := List.map_eq_append_iff.mp hwhole
  obtain ⟨found, back, rfl, rfl, rfl⟩ := List.map_eq_append_iff.mp hrest
  rw [List.getLast?_map, joinsPhrase_map_toLower] at hbefore
  rw [List.head?_map, joinsPhrase_map_toLower] at hafter
  rw [List.length_map, List.length_map] at hspan
  exact ⟨found, rfl, front, back, rfl, hspan, hbefore, hafter⟩

theorem holds_append {before found after phrase : String} (hne : found ≠ "")
    (hsame : sameText found phrase = true)
    (hbefore : joinsPhrase before.toList.getLast? = false)
    (hafter : joinsPhrase after.toList.head? = false) :
    Holds (before ++ found ++ after) phrase
      ⟨before.rawEndPos, (before ++ found).rawEndPos⟩ where
  start_isValid := String.append_assoc ▸ isValid_rawEndPos_append before (found ++ after)
  stop_isValid := isValid_rawEndPos_append (before ++ found) after
  start_lt_stop := by
    have hpos : found.utf8ByteSize ≠ 0 := mt String.utf8ByteSize_eq_zero_iff.mp hne
    rw [String.Pos.Raw.lt_iff, String.byteIdx_rawEndPos, String.byteIdx_rawEndPos,
      String.utf8ByteSize_append]
    omega
  stop_le := (isValid_rawEndPos_append (before ++ found) after).le_rawEndPos
  surroundings := ⟨before, found, after, rfl, rfl, slice?_append before found after, hsame, hbefore,
    hafter⟩

theorem Covers.holds {cs found : List Char} {phrase : String} {s : Span} (h : Covers found 0 cs s)
    (hspan : s.start < s.stop) (hsame : asciiLower found = asciiLower phrase.toList) :
    Holds (String.ofList cs) phrase (ofSpan cs s) := by
  obtain ⟨before, after, rfl, rfl, hbefore, hafter⟩ := h
  have hne : found ≠ [] := by
    rintro rfl
    exact absurd hspan (Nat.lt_irrefl _)
  have hstart : byteOf (before ++ (found ++ after)) before.length =
      (String.ofList before).rawEndPos := byteOf_append_length before (found ++ after)
  have hstop : byteOf (before ++ (found ++ after)) (before.length + found.length) =
      (String.ofList before ++ String.ofList found).rawEndPos := by
    rw [← List.append_assoc, ← List.length_append, byteOf_append_length, String.ofList_append]
  rw [ofSpan, Nat.zero_add, hstart, hstop, String.ofList_append, String.ofList_append,
    ← String.append_assoc]
  apply holds_append
  · rwa [Ne, String.ofList_eq_empty_iff]
  · rw [sameText_iff, String.toList_ofList, hsame]
  · rwa [String.toList_ofList]
  · rwa [String.toList_ofList]

/-! ### Cutting ranges -/

/-- The pieces of a text between ranges, from a byte on. -/
def piecesFrom? (text : String) (first : String.Pos.Raw) : List ByteRange → Option (List String)
  | [] => (slice? text first text.rawEndPos).map fun piece => [piece]
  | r :: rest => do
    let piece ← slice? text first r.start
    let pieces ← piecesFrom? text r.stop rest
    return piece :: pieces

/-- Pieces of a text with a space between them, collapsed. -/
def collapsePieces (pieces : List String) : String :=
  String.ofList (collapse (joinWith [' '] (pieces.map String.toList)))

/-- The text without some ranges. If there are any, white space is collapsed. -/
def cut? (text : String) (ranges : List ByteRange) : Option String :=
  if ranges = [] then some text else (piecesFrom? text 0 ranges).map collapsePieces

theorem piecesFrom?_eq {cs : List Char} {first : Nat} {spans : List Span}
    (h : Span.Apart first cs.length spans) (hfirst : first ≤ cs.length) :
    piecesFrom? (String.ofList cs) (byteOf cs first) (spans.map (ofSpan cs)) =
      some ((Span.piecesFrom first (cs.drop first) spans).map String.ofList) := by
  -- The cursor is the byte of the position `first`, and goes to the end of each span in turn.
  induction spans generalizing first with
  | nil =>
      rw [List.map_nil, piecesFrom?, ← byteOf_length, slice?_byteOf cs hfirst, List.take_length]
      rfl
  | cons s rest ih =>
      obtain ⟨hstart, hspan, hstop⟩ := h.within s List.mem_cons_self
      have hpiece : (cs.take s.start).drop first = (cs.drop first).take (s.start - first) :=
        List.drop_take
      have hbehind : (cs.drop first).drop (s.stop - first) = cs.drop s.stop := by
        rw [List.drop_drop, show first + (s.stop - first) = s.stop by omega]
      have hrest := ih h.tail hstop
      rw [List.map_cons, piecesFrom?, Span.piecesFrom, List.map_cons, ← hpiece, hbehind]
      simp only [ofSpan, slice?_byteOf cs hstart, hrest, Option.bind_eq_bind, Option.bind_some]
      rfl

theorem collapsePieces_map_ofList (pieces : List (List Char)) :
    collapsePieces (pieces.map String.ofList) =
      String.ofList (collapse (joinWith [' '] pieces)) := by
  have hread : String.toList ∘ String.ofList = id := funext fun _ => String.toList_ofList
  rw [collapsePieces, List.map_map, hread, List.map_id]

theorem cut?_map_ofSpan {cs : List Char} {spans : List Span}
    (h : Span.Apart 0 cs.length spans) :
    cut? (String.ofList cs) (spans.map (ofSpan cs)) =
      some (String.ofList (Span.cut cs spans)) := by
  have hpieces := piecesFrom?_eq h (Nat.zero_le _)
  rw [show byteOf cs 0 = 0 from rfl, List.drop_zero] at hpieces
  by_cases hnone : spans = []
  · rw [hnone, List.map_nil, cut?, if_pos rfl, Span.cut, List.isEmpty_nil, if_pos rfl]
  · rw [cut?, if_neg (mt List.map_eq_nil_iff.mp hnone), hpieces, Option.map_some,
      collapsePieces_map_ofList, Span.cut, if_neg (mt List.isEmpty_iff.mp hnone)]

/-- A text that is made of pieces of two kinds in turn, from a kept one to a kept one. -/
inductive Alternates : List String → List String → String → Prop
  | last (kept : String) : Alternates [kept] [] kept
  | step (kept removed : String) {keeps removes : List String} {rest : String}
      (h : Alternates keeps removes rest) :
      Alternates (kept :: keeps) (removed :: removes) (kept ++ removed ++ rest)

theorem alternates_piecesFrom {cs : List Char} {first last : Nat} {spans : List Span}
    (h : Span.Apart first last spans) :
    Alternates ((Span.piecesFrom first cs spans).map String.ofList)
      ((spans.map (Span.textFrom first cs)).map String.ofList) (String.ofList cs) := by
  induction spans generalizing first cs with
  | nil => exact .last (String.ofList cs)
  | cons s rest ih =>
      obtain ⟨hstart, hspan, hstop⟩ := h.within s List.mem_cons_self
      -- The later texts can be read behind the first span too, where the recursion goes on.
      have hbehind : rest.map (Span.textFrom first cs) =
          rest.map (Span.textFrom s.stop (cs.drop (s.stop - first))) := by
        apply List.map_congr_left
        intro t ht
        have hlater := h.tail.within t ht
        exact (Span.textFrom_drop cs (by omega) hlater.1 hlater.2.1).symm
      have hwhole : String.ofList cs = String.ofList (cs.take (s.start - first)) ++
          String.ofList (Span.textFrom first cs s) ++ String.ofList (cs.drop (s.stop - first)) := by
        rw [← String.ofList_append, Span.textFrom, take_append_drop_take cs (by omega),
          ← String.ofList_append, List.take_append_drop]
      rw [List.map_cons, List.map_cons, hbehind, hwhole]
      exact .step _ _ (ih h.tail)

theorem slices_eq {cs : List Char} {spans : List Span} (h : Span.Apart 0 cs.length spans) :
    (spans.map (ofSpan cs)).map (fun r => slice? (String.ofList cs) r.start r.stop) =
      ((spans.map (Span.textFrom 0 cs)).map String.ofList).map some := by
  rw [List.map_map, List.map_map, List.map_map]
  apply List.map_congr_left
  intro s hs
  exact slice?_byteOf cs (Nat.le_of_lt (h.within s hs).2.1)

/-! ### Cutting out a phrase -/

theorem apart_phraseSpans_asciiLower (cs phrase : List Char) :
    Span.Apart 0 cs.length (phraseSpans (asciiLower cs) phrase) := by
  have hapart := apart_phraseSpans (asciiLower cs) phrase
  rwa [asciiLower, List.length_map, ← asciiLower] at hapart

section Phrase

variable (text phrase : String)

theorem occurrences_toLower : occurrences text.toLower phrase =
    (phraseSpans (asciiLower text.toList) phrase.toList).map (ofSpan text.toList) := by
  have hlower : text.toLower.toList = asciiLower text.toList := String.toList_map
  have hspan : ofSpan (asciiLower text.toList) = ofSpan text.toList := by
    funext s
    rw [ofSpan, ofSpan, byteOf_asciiLower, byteOf_asciiLower]
  rw [occurrences, hlower, hspan]

theorem pairwise_occurrences :
    (occurrences text.toLower phrase).Pairwise fun a b => a.stop ≤ b.start := by
  rw [occurrences_toLower]
  apply List.pairwise_map.mpr
  have hordered := (apart_phraseSpans_asciiLower text.toList phrase.toList).ordered
  exact hordered.imp fun h => byteOf_mono text.toList h

theorem holds_of_mem_occurrences {r : ByteRange} (hr : r ∈ occurrences text.toLower phrase) :
    Holds text phrase r := by
  rw [occurrences_toLower] at hr
  obtain ⟨s, hs, rfl⟩ := List.mem_map.mp hr
  obtain ⟨found, hfound, hcovers⟩ := covers_of_asciiLower (covers_of_mem_phraseSpans hs)
  have hspan := (apart_phraseSpans_asciiLower text.toList phrase.toList).within s hs
  have hsame : asciiLower found = asciiLower phrase.toList := by
    rw [← hfound, asciiLower_asciiLower]
  have hholds := hcovers.holds hspan.2.1 hsame
  rwa [String.ofList_toList] at hholds

theorem cut?_eq_cut : cut? text (occurrences text.toLower phrase) = some (String.ofList
    (Span.cut text.toList (phraseSpans (asciiLower text.toList) phrase.toList))) := by
  have hcut := cut?_map_ofSpan (apart_phraseSpans_asciiLower text.toList phrase.toList)
  rwa [String.ofList_toList, ← occurrences_toLower] at hcut

theorem exists_alternates_cut? : ∃ kept removed, Alternates kept removed text ∧
    (occurrences text.toLower phrase).map (fun r => slice? text r.start r.stop) =
      removed.map some ∧
    cut? text (occurrences text.toLower phrase) =
      some (if occurrences text.toLower phrase = [] then text else collapsePieces kept) := by
  have hapart := apart_phraseSpans_asciiLower text.toList phrase.toList
  have hslices := slices_eq hapart
  have halternates := @alternates_piecesFrom text.toList 0 _ _ hapart
  rw [String.ofList_toList, ← occurrences_toLower] at hslices
  rw [String.ofList_toList] at halternates
  refine ⟨_, _, halternates, hslices, ?_⟩
  rw [cut?_eq_cut, occurrences_toLower, Span.cut, collapsePieces_map_ofList]
  by_cases hnone : phraseSpans (asciiLower text.toList) phrase.toList = []
  · rw [if_pos (List.isEmpty_iff.mpr hnone), if_pos (List.map_eq_nil_iff.mpr hnone),
      String.ofList_toList]
  · rw [if_neg (mt List.isEmpty_iff.mp hnone), if_neg (mt List.map_eq_nil_iff.mp hnone)]

/-- What stands of a phrase in the small letters of a text, told by bytes, are ranges of the text
itself that are in order and apart, and that hold the phrase. Cutting them out never fails. It
removes what they hold and nothing else, and gives what the spans of characters give. -/
theorem cut?_occurrences :
    (occurrences text.toLower phrase).Pairwise (fun a b => a.stop ≤ b.start) ∧
      (∀ r ∈ occurrences text.toLower phrase, Holds text phrase r) ∧
      cut? text (occurrences text.toLower phrase) = some (String.ofList
        (Span.cut text.toList (phraseSpans (asciiLower text.toList) phrase.toList))) ∧
      ∃ kept removed, Alternates kept removed text ∧
        (occurrences text.toLower phrase).map (fun r => slice? text r.start r.stop) =
          removed.map some ∧
        cut? text (occurrences text.toLower phrase) =
          some (if occurrences text.toLower phrase = [] then text else collapsePieces kept) :=
  ⟨pairwise_occurrences text phrase, fun _ hr => holds_of_mem_occurrences text phrase hr,
    cut?_eq_cut text phrase, exists_alternates_cut? text phrase⟩

example : cut? "Ω LED-µ" (occurrences "Ω LED-µ".toLower "led") = some "Ω -µ" := by cbv

end Phrase

end Text

/-! ### Keywords and descriptors -/

theorem Keyword.cut?_of_extract {text rest : String} {k : Keyword}
    (h : extract text = (some k, rest)) :
    Text.cut? text (Text.occurrences text.toLower k.word) = some rest := by
  rw [Text.cut?_eq_cut]
  unfold extract at h
  dsimp only at h
  split at h
  · obtain ⟨hword, hrest⟩ := Prod.mk.inj h
    rw [← Option.some.inj hword, hrest]
  · cases h

theorem Descriptor.cut?_eq_take (found : List Descriptor × List Char) (d : Descriptor) :
    Text.cut? (String.ofList found.2) (Text.occurrences (String.ofList found.2).toLower d.phrase) =
      some (String.ofList (take found d).2) := by
  rw [Text.cut?_eq_cut, String.toList_ofList, take]
  split
  · rename_i hnone
    rw [Span.cut, if_pos hnone]
  · rfl

end PartSearch
