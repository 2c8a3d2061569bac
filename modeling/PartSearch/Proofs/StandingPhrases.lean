import Mathlib.Data.List.Infix
import Mathlib.Data.List.Pairwise
import PartSearch.Proofs.SpanCutting

/-!
# Phrases that stand on their own

`Stands` says that a phrase occurs in a text with no letter, digit or underscore beside it. The
search for such places first lists occurrences from left to right without overlap, and then looks at
what lies beside them, so it may pass over a place that overlaps an earlier occurrence:
`isListed_or_lapped`. For a phrase that overlaps itself in one way only, `phraseSpans_ne_nil_iff`
says when that happens.
-/

namespace PartSearch.Text

open Pattern

/-- A phrase stands in a text behind `before`, and nothing beside it joins it to a longer word. -/
def StandsBehind (phrase before cs : List Char) : Prop :=
  ∃ after, cs = before ++ (phrase ++ after) ∧ joinsPhrase before.getLast? = false ∧
    joinsPhrase after.head? = false

def Stands (phrase cs : List Char) : Prop := ∃ before, StandsBehind phrase before cs

/-! ### Occurrences of a phrase -/

section Occurrences

variable {phrase cs : List Char}

theorem at?_chars (before after : List Char) : (chars phrase).at? before (phrase ++ after) =
    some ⟨before, phrase, after, []⟩ := by
  rw [at?, ends_chars, if_pos (List.isPrefixOf_iff_prefix.mpr (List.prefix_append phrase after))]
  simp

theorem at?_chars_eq_some {before after : List Char} {m : Found}
    (h : (chars phrase).at? before after = some m) :
    m.before = before ∧ m.text = phrase ∧ after = phrase ++ m.after := by
  have hprefix : phrase <+: after := by
    rw [at?, ends_chars] at h
    split at h
    · rename_i hprefix
      exact List.isPrefixOf_iff_prefix.mp hprefix
    · cases h
  obtain ⟨rest, rfl⟩ := hprefix
  rw [at?_chars] at h
  obtain rfl := Option.some.inj h
  exact ⟨rfl, rfl, rfl⟩

theorem found_of_mem_findAllFrom {before : List Char} {skip : Nat} {m : Found}
    (h : m ∈ (chars phrase).findAllFrom before skip cs) :
    m.text = phrase ∧ before.reverse ++ cs = m.before.reverse ++ (phrase ++ m.after) := by
  induction cs generalizing before skip with
  | nil => simp [findAllFrom] at h
  | cons c cs ih =>
      have hnext {skip : Nat} (h : m ∈ (chars phrase).findAllFrom (c :: before) skip cs) :
          m.text = phrase ∧
            before.reverse ++ c :: cs = m.before.reverse ++ (phrase ++ m.after) := by
        simpa using ih h
      cases skip with
      | succ skip => exact hnext h
      | zero =>
          rw [findAllFrom] at h
          split at h
          · rename_i found hat
            obtain ⟨hbefore, htext, hafter⟩ := at?_chars_eq_some hat
            split at h
            · exact hnext h
            · rcases List.mem_cons.mp h with rfl | hlater
              · exact ⟨htext, by rw [hbefore, ← hafter]⟩
              · exact hnext hlater
          · exact hnext h

theorem mem_findAllFrom_self (hphrase : phrase ≠ []) (before after : List Char) :
    ⟨before, phrase, after, []⟩ ∈ (chars phrase).findAllFrom before 0 (phrase ++ after) := by
  obtain ⟨c, cs, hcs⟩ := List.exists_cons_of_ne_nil hphrase
  have hat : (chars phrase).at? before (phrase ++ after) = some ⟨before, phrase, after, []⟩ :=
    at?_chars before after
  generalize hread : phrase ++ after = read at hat
  cases read with
  | nil => simp [hcs] at hread
  | cons d ds =>
      rw [findAllFrom, hat]
      simp [hphrase]

/-- No occurrence behind the skipped characters is passed over, unless one that is listed starts
before it and reaches into it. -/
theorem exists_found_of_append (hphrase : phrase ≠ []) {skip : Nat} {front : List Char}
    (hskip : skip ≤ front.length) (before after : List Char) :
    ∃ m ∈ (chars phrase).findAllFrom before skip (front ++ (phrase ++ after)),
      m.start ≤ before.length + front.length ∧
        before.length + front.length < m.start + phrase.length := by
  have hlength := List.length_pos_iff.mpr hphrase
  induction front generalizing before skip with
  | nil =>
      obtain rfl : skip = 0 := Nat.le_zero.mp hskip
      exact ⟨_, mem_findAllFrom_self hphrase before after, Nat.le_refl _,
        Nat.lt_add_of_pos_right hlength⟩
  | cons c front ih =>
      rw [List.length_cons] at hskip ⊢
      have hnext {skip : Nat} (hskip : skip ≤ front.length) :
          ∃ m ∈ (chars phrase).findAllFrom (c :: before) skip (front ++ (phrase ++ after)),
            m.start ≤ before.length + (front.length + 1) ∧
              before.length + (front.length + 1) < m.start + phrase.length := by
        obtain ⟨m, hm, hstart, hstop⟩ := ih hskip (c :: before)
        rw [List.length_cons] at hstart hstop
        exact ⟨m, hm, by omega, by omega⟩
      cases skip with
      | succ skip => exact hnext (by omega)
      | zero =>
          rw [List.cons_append, findAllFrom]
          split
          · rename_i found hat
            obtain ⟨hbefore, htext, -⟩ := at?_chars_eq_some hat
            rw [if_neg (by rw [htext]; simpa using hphrase)]
            -- What is found here reaches over the place behind `front`, or it ends before that.
            by_cases hreaches : front.length + 1 < phrase.length
            · refine ⟨found, List.mem_cons_self, ?_, ?_⟩
              · rw [Found.start, hbefore]
                omega
              · rw [Found.start, hbefore]
                omega
            · have hskip : found.text.length - 1 ≤ front.length := by
                rw [htext]
                omega
              obtain ⟨m, hm, hbounds⟩ := hnext hskip
              exact ⟨m, List.mem_cons_of_mem _ hm, hbounds⟩
          · exact hnext (Nat.zero_le _)

end Occurrences

/-! ### Listed occurrences -/

/-- A listed occurrence, told by what stands before it. -/
def IsListed (phrase before cs : List Char) : Prop :=
  ∃ m ∈ (chars phrase).findAll cs, m.before.reverse = before

section Listed

variable {phrase before cs : List Char}

theorem phraseSpans_ne_nil_iff_exists :
    phraseSpans cs phrase ≠ [] ↔
      ∃ before, IsListed phrase before cs ∧ StandsBehind phrase before cs := by
  rw [phraseSpans, Ne, List.map_eq_nil_iff, List.filter_eq_nil_iff]
  simp only [not_forall, not_not, Bool.and_eq_true, Bool.not_eq_true', exists_prop]
  constructor
  · rintro ⟨m, hm, hbefore, hafter⟩
    obtain ⟨-, hwhole⟩ := found_of_mem_findAllFrom hm
    exact ⟨m.before.reverse, ⟨m, hm, rfl⟩, m.after, hwhole, by rwa [List.getLast?_reverse], hafter⟩
  · rintro ⟨before, ⟨m, hm, rfl⟩, after, hcs, hbefore, hafter⟩
    obtain ⟨-, hwhole⟩ := found_of_mem_findAllFrom hm
    rw [List.reverse_nil, List.nil_append, hcs] at hwhole
    have hrest := List.append_cancel_left (List.append_cancel_left hwhole)
    exact ⟨m, hm, by rwa [List.getLast?_reverse] at hbefore, hrest ▸ hafter⟩

theorem stands_of_phraseSpans_ne_nil (h : phraseSpans cs phrase ≠ []) : Stands phrase cs := by
  obtain ⟨before, -, hstands⟩ := phraseSpans_ne_nil_iff_exists.mp h
  exact ⟨before, hstands⟩

theorem IsListed.le_length {lap : List Char} (h : IsListed phrase before cs)
    (hlater : IsListed phrase (before ++ lap) cs) (hlap : lap ≠ []) :
    phrase.length ≤ lap.length := by
  obtain ⟨m, hm, hbefore⟩ := h
  obtain ⟨m', hm', hbefore'⟩ := hlater
  have hlength := List.length_pos_iff.mpr hlap
  have hstart : m'.start = m.start + lap.length := by
    rw [Found.start, Found.start, ← List.length_reverse, hbefore', List.length_append, ← hbefore,
      List.length_reverse]
  have hne : m ≠ m' := by
    rintro rfl
    omega
  have : Std.Symm fun a b : Found => a.stop ≤ b.start ∨ b.stop ≤ a.start := ⟨fun _ _ => Or.symm⟩
  have hapart : ((chars phrase).findAll cs).Pairwise
      fun a b => a.stop ≤ b.start ∨ b.stop ≤ a.start :=
    (pairwise_findAll (chars phrase) cs).imp Or.inl
  have hstop : m.stop = m.start + phrase.length := by
    rw [Found.stop, (found_of_mem_findAllFrom hm).1, Found.start]
  have hstop' : m'.start ≤ m'.stop := Nat.le_add_right _ _
  rcases hapart.forall hm hm' hne with horder | horder
  · omega
  · omega

end Listed

/-! ### Phrases that overlap themselves -/

/-- What stands in front of a second copy of a phrase that starts in a first one. -/
structure IsLap (phrase lap : List Char) : Prop where
  ne_nil : lap ≠ []
  overlap : ∃ shared, shared ≠ [] ∧ phrase = lap ++ shared ∧ shared <+: phrase

section Laps

variable {phrase lap before cs : List Char}

theorem IsLap.length_lt (h : IsLap phrase lap) : lap.length < phrase.length := by
  obtain ⟨shared, hshared, hphrase, -⟩ := h.overlap
  rw [hphrase, List.length_append]
  exact Nat.lt_add_of_pos_right (List.length_pos_iff.mpr hshared)

/-- A phrase behind its lap shows a first copy, and what follows is the end of the second one. -/
theorem IsLap.append_eq (h : IsLap phrase lap) :
    lap ++ phrase = phrase ++ phrase.drop (phrase.length - lap.length) := by
  obtain ⟨shared, -, hphrase, rest, hrest⟩ := h.overlap
  have hlength : phrase.length - lap.length = shared.length := by
    rw [hphrase, List.length_append]
    omega
  rw [hlength]
  nth_rewrite 1 [← hrest]
  rw [← List.append_assoc, ← hphrase]
  congr 1
  rw [← hrest, List.drop_left]

theorem IsLap.getLast?_append (h : IsLap phrase lap) (before : List Char) :
    (before ++ lap).getLast? = lap.getLast? :=
  List.getLast?_append_of_ne_nil before h.ne_nil

/-- An occurrence is listed, or a listed one laps into it. -/
theorem isListed_or_lapped (hphrase : phrase ≠ []) {after : List Char}
    (hcs : cs = before ++ (phrase ++ after)) :
    IsListed phrase before cs ∨
      ∃ earlier lap, IsLap phrase lap ∧ before = earlier ++ lap ∧ IsListed phrase earlier cs := by
  obtain ⟨m, hm, hstart, hstop⟩ :=
    exists_found_of_append hphrase (Nat.zero_le before.length) [] after
  rw [List.length_nil, Nat.zero_add] at hstart hstop
  rw [← hcs] at hm
  have hlength : m.before.reverse.length = m.start := List.length_reverse
  obtain ⟨-, hwhole⟩ := found_of_mem_findAllFrom hm
  rw [List.reverse_nil, List.nil_append, hcs] at hwhole
  rcases List.append_eq_append_iff.mp hwhole with ⟨lap, hearlier, -⟩ | ⟨lap, hbefore, hrest⟩
  · -- The listed occurrence starts no earlier, so it starts here.
    obtain rfl : lap = [] := by
      have hlengths := congrArg List.length hearlier
      rw [List.length_append, hlength] at hlengths
      exact List.eq_nil_of_length_eq_zero (by omega)
    rw [List.append_nil] at hearlier
    exact Or.inl ⟨m, hm, hearlier⟩
  · -- It starts earlier and reaches over the start of this one, unless they are the same.
    by_cases hlap : lap = []
    · rw [hlap, List.append_nil] at hbefore
      exact Or.inl ⟨m, hm, hbefore.symm⟩
    · have hlengths := congrArg List.length hbefore
      rw [List.length_append, hlength] at hlengths
      obtain ⟨shared, hshared⟩ : lap <+: phrase :=
        List.prefix_of_prefix_length_le (hrest ▸ List.prefix_append lap _)
          (List.prefix_append phrase _) (by omega)
      have hne : shared ≠ [] := by
        rintro rfl
        rw [← hshared, List.append_nil] at hstop
        omega
      have hprefix : shared <+: phrase := by
        rw [← hshared, List.append_assoc, hshared] at hrest
        have hread := List.append_cancel_left hrest
        exact List.prefix_of_prefix_length_le (hread ▸ List.prefix_append _ _)
          (List.prefix_append phrase after) (by rw [← hshared, List.length_append]; omega)
      exact Or.inr ⟨m.before.reverse, lap, ⟨hlap, shared, hne, hshared.symm, hprefix⟩, hbefore,
        m, hm, rfl⟩

/-- The phrase overlaps itself in at most one way that leaves a boundary in front of the second
copy, and then there is one behind the first copy too. -/
structure LapsOnce (phrase : List Char) : Prop where
  unique : ∀ lap other, IsLap phrase lap → IsLap phrase other →
    joinsPhrase lap.getLast? = false → other = lap
  free : ∀ lap, IsLap phrase lap → joinsPhrase lap.getLast? = false →
    joinsPhrase (phrase.drop (phrase.length - lap.length)).head? = false

/-- There is one copy of the phrase that laps into the place behind `before`, and none that laps
into that copy. -/
def IsHidden (phrase before : List Char) : Prop :=
  ∃ lap, IsLap phrase lap ∧ lap <:+ before ∧ ¬ lap ++ lap <:+ before

theorem IsListed.not_isHidden (honce : LapsOnce phrase) (hlisted : IsListed phrase before cs)
    (hstands : StandsBehind phrase before cs) : ¬ IsHidden phrase before := by
  rintro ⟨lap, hlap, ⟨earlier, rfl⟩, htwice⟩
  obtain ⟨after, hcs, hfree, -⟩ := hstands
  rw [hlap.getLast?_append] at hfree
  have hne : phrase ≠ [] := List.ne_nil_of_length_pos (Nat.zero_lt_of_lt hlap.length_lt)
  have hcopy : cs = earlier ++
      (phrase ++ (phrase.drop (phrase.length - lap.length) ++ after)) := by
    rw [hcs, List.append_assoc, ← List.append_assoc lap, hlap.append_eq, List.append_assoc]
  rcases isListed_or_lapped hne hcopy with hcopy | ⟨first, other, hother, rfl, -⟩
  · have hlength := hcopy.le_length hlisted hlap.ne_nil
    have hlt := hlap.length_lt
    omega
  · obtain rfl := honce.unique lap other hlap hother hfree
    exact htwice ⟨first, (List.append_assoc _ _ _).symm⟩

/-- The search finds a phrase unless every place where it stands is hidden by an earlier copy. -/
theorem phraseSpans_ne_nil_iff (hphrase : phrase ≠ []) (honce : LapsOnce phrase) :
    phraseSpans cs phrase ≠ [] ↔
      ∃ before, StandsBehind phrase before cs ∧ ¬ IsHidden phrase before := by
  rw [phraseSpans_ne_nil_iff_exists]
  constructor
  · rintro ⟨before, hlisted, hstands⟩
    exact ⟨before, hstands, hlisted.not_isHidden honce hstands⟩
  · rintro ⟨before, ⟨after, hcs, hfree, hafter⟩, hshown⟩
    rcases isListed_or_lapped hphrase hcs with hlisted | ⟨earlier, lap, hlap, rfl, hlisted⟩
    · exact ⟨before, hlisted, after, hcs, hfree, hafter⟩
    · -- The copy that laps in is listed, and it stands between a copy before it and this one.
      have htwice : lap ++ lap <:+ earlier ++ lap := by
        by_contra honly
        exact hshown ⟨lap, hlap, List.suffix_append earlier lap, honly⟩
      obtain ⟨first, rfl⟩ := List.suffix_append_self_iff.mp htwice
      rw [hlap.getLast?_append] at hfree
      refine ⟨first ++ lap, hlisted, phrase.drop (phrase.length - lap.length) ++ after, ?_, ?_, ?_⟩
      · rw [hcs, List.append_assoc _ lap, ← List.append_assoc lap, hlap.append_eq,
          List.append_assoc phrase]
      · rwa [hlap.getLast?_append]
      · have hbehind := honce.free lap hlap hfree
        rwa [List.head?_append_of_ne_nil]
        apply List.ne_nil_of_length_pos
        have hlt := hlap.length_lt
        have hpos := List.length_pos_iff.mpr hlap.ne_nil
        rw [List.length_drop]
        omega

end Laps

end PartSearch.Text
