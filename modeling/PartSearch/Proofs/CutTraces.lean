import Mathlib.Logic.Relation
import PartSearch.Proofs.StandingPhrases
import PartSearch.Proofs.WordOccurrences

/-!
# Where the rest of a text comes from

Phrases are cut out of a text one after another. Each cut leaves a space, and white space is then
collapsed, so a phrase that stands in the rest need not stand in the text. `Spread` says what it can
come from. A text is rewritten into its rest by small steps, `Clears`; each one keeps track of where
phrases come from (`Step.traces`), so all of them do (`Clears.traces`).
-/

namespace PartSearch.Text

/-- A phrase spread out in a text. Where the phrase has a space the text may have more: any white
space, and phrases found before, which may be spread out themselves. -/
inductive Spread (found : List (List Char)) : List Char → List Char → Prop
  | nil : Spread found [] []
  | char {phrase piece : List Char} (c : Char) :
      Spread found phrase piece → Spread found (c :: phrase) (c :: piece)
  | blank {phrase piece : List Char} {c : Char} :
      isBlank c = true → Spread found phrase piece → Spread found (' ' :: phrase) (c :: piece)
  | cut {phrase piece earlier gap : List Char} :
      earlier ∈ found → earlier ≠ [] → Spread found earlier gap → Spread found phrase piece →
        Spread found (' ' :: phrase) (gap ++ piece)
  | squeeze {phrase piece : List Char} :
      Spread found (' ' :: ' ' :: phrase) piece → Spread found (' ' :: phrase) piece

/-! ### Spread phrases -/

namespace Spread

variable {found : List (List Char)} {phrase next piece : List Char}

theorem refl (found : List (List Char)) (phrase : List Char) : Spread found phrase phrase := by
  induction phrase with
  | nil => exact .nil
  | cons c phrase ih => exact .char c ih

theorem append {nextPiece : List Char} (h : Spread found phrase piece)
    (hnext : Spread found next nextPiece) : Spread found (phrase ++ next) (piece ++ nextPiece) := by
  induction h with
  | nil => exact hnext
  | char c _ ih => exact .char c ih
  | blank hc _ ih => exact .blank hc ih
  | cut hmem hne hgap _ _ ih =>
      rw [List.append_assoc]
      exact .cut hmem hne hgap ih
  | squeeze _ ih => exact .squeeze ih

theorem split (h : Spread found (phrase ++ next) piece) :
    ∃ first last, piece = first ++ last ∧ Spread found phrase first ∧ Spread found next last := by
  generalize hwhole : phrase ++ next = whole at h
  induction h generalizing phrase with
  | nil =>
      obtain ⟨rfl, rfl⟩ := List.append_eq_nil_iff.mp hwhole
      exact ⟨[], [], rfl, .nil, .nil⟩
  | @char rest piece c h ih =>
      rcases List.append_eq_cons_iff.mp hwhole with ⟨rfl, rfl⟩ | ⟨front, rfl, rfl⟩
      · exact ⟨[], c :: piece, rfl, .nil, .char c h⟩
      · obtain ⟨first, last, rfl, hfirst, hlast⟩ := ih rfl
        exact ⟨c :: first, last, rfl, .char c hfirst, hlast⟩
  | @blank rest piece c hc h ih =>
      rcases List.append_eq_cons_iff.mp hwhole with ⟨rfl, rfl⟩ | ⟨front, rfl, rfl⟩
      · exact ⟨[], c :: piece, rfl, .nil, .blank hc h⟩
      · obtain ⟨first, last, rfl, hfirst, hlast⟩ := ih rfl
        exact ⟨c :: first, last, rfl, .blank hc hfirst, hlast⟩
  | @cut rest piece earlier gap hmem hne hgap h _ ih =>
      rcases List.append_eq_cons_iff.mp hwhole with ⟨rfl, rfl⟩ | ⟨front, rfl, rfl⟩
      · exact ⟨[], gap ++ piece, rfl, .nil, .cut hmem hne hgap h⟩
      · obtain ⟨first, last, rfl, hfirst, hlast⟩ := ih rfl
        exact ⟨gap ++ first, last, (List.append_assoc _ _ _).symm, .cut hmem hne hgap hfirst, hlast⟩
  | @squeeze rest piece h ih =>
      rcases List.append_eq_cons_iff.mp hwhole with ⟨rfl, rfl⟩ | ⟨front, rfl, rfl⟩
      · exact ⟨[], piece, rfl, .nil, .squeeze h⟩
      · have hmore : ' ' :: ' ' :: front ++ next = ' ' :: ' ' :: (front ++ next) := rfl
        obtain ⟨first, last, rfl, hfirst, hlast⟩ := ih hmore
        exact ⟨first, last, rfl, .squeeze hfirst, hlast⟩

/-- A phrase that is spread out in a text which is spread out itself. -/
theorem trans {source : List Char} (h : Spread found phrase piece)
    (hpiece : Spread found piece source) : Spread found phrase source := by
  induction h generalizing source with
  | nil => exact hpiece
  | @char phrase piece c _ ih =>
      have hpiece : Spread found ([c] ++ piece) source := hpiece
      obtain ⟨first, last, rfl, hfirst, hlast⟩ := hpiece.split
      exact append hfirst (ih hlast)
  | @blank phrase piece c hc _ ih =>
      have hpiece : Spread found ([c] ++ piece) source := hpiece
      obtain ⟨first, last, rfl, hfirst, hlast⟩ := hpiece.split
      -- Whatever a blank comes from may stand for the space of the phrase.
      have hspace : Spread found [' '] first := by
        cases hfirst with
        | char _ hrest => exact .blank hc hrest
        | blank hblank hrest => exact .blank hblank hrest
        | cut hmem hne hgap hrest => exact .cut hmem hne hgap hrest
        | squeeze hmore => exact .squeeze hmore
      exact append hspace (ih hlast)
  | cut hmem hne _ _ ihgap ih =>
      obtain ⟨first, last, rfl, hfirst, hlast⟩ := split hpiece
      exact .cut hmem hne (ihgap hfirst) (ih hlast)
  | squeeze _ ih => exact .squeeze (ih hpiece)

theorem mono {more : List (List Char)} (hsub : found ⊆ more) (h : Spread found phrase piece) :
    Spread more phrase piece := by
  induction h with
  | nil => exact .nil
  | char c _ ih => exact .char c ih
  | blank hc _ ih => exact .blank hc ih
  | cut hmem hne _ _ ihgap ih => exact .cut (hsub hmem) hne ihgap ih
  | squeeze _ ih => exact .squeeze ih

theorem of_cons {c : Char} (hc : c ≠ ' ') (h : Spread found (c :: phrase) piece) :
    ∃ rest, piece = c :: rest ∧ Spread found phrase rest := by
  cases h with
  | char _ hrest => exact ⟨_, rfl, hrest⟩
  | blank | cut | squeeze => exact absurd rfl hc

theorem eq_of_not_mem (hphrase : ' ' ∉ phrase) (h : Spread found phrase piece) :
    piece = phrase := by
  induction phrase generalizing piece with
  | nil =>
      cases h
      rfl
  | cons c phrase ih =>
      rw [List.mem_cons, not_or] at hphrase
      obtain ⟨hc, hphrase⟩ := hphrase
      obtain ⟨rest, rfl, hrest⟩ := h.of_cons (Ne.symm hc)
      rw [ih hphrase hrest]

theorem ne_nil (hphrase : phrase ≠ []) (h : Spread found phrase piece) : piece ≠ [] := by
  induction h with
  | nil => exact absurd rfl hphrase
  | char | blank => exact List.cons_ne_nil _ _
  | cut _ hne _ _ ihgap _ => exact List.append_ne_nil_of_left_ne_nil (ihgap hne) _
  | squeeze _ ih => exact ih (List.cons_ne_nil _ _)

theorem ne_space {c : Char} (hc : joinsPhrase (some c) = true) : c ≠ ' ' := by
  rintro rfl
  exact absurd hc (by decide)

theorem joins_head? (hjoins : joinsPhrase phrase.head? = true) (h : Spread found phrase piece) :
    joinsPhrase piece.head? = true := by
  cases phrase with
  | nil => cases hjoins
  | cons c phrase =>
      obtain ⟨rest, rfl, -⟩ := h.of_cons (ne_space hjoins)
      exact hjoins

theorem joins_getLast? (hjoins : joinsPhrase phrase.getLast? = true)
    (h : Spread found phrase piece) : joinsPhrase piece.getLast? = true := by
  rcases List.eq_nil_or_concat' phrase with rfl | ⟨front, c, rfl⟩
  · cases hjoins
  · rw [List.getLast?_concat] at hjoins
    obtain ⟨first, last, rfl, -, hlast⟩ := split h
    obtain ⟨rest, rfl, hrest⟩ := hlast.of_cons (ne_space hjoins)
    cases hrest
    rwa [List.getLast?_concat]

end Spread

/-! ### Traces of a text -/

section Traces

variable {found : List (List Char)}

/-- Nothing that follows a phrase joins its end, or only what followed a phrase found before that
stood here, and then the phrase ends in a character that joins nothing. -/
def EndsApart (found : List (List Char)) (phrase after : List Char) : Prop :=
  joinsPhrase after.head? = false ∨ joinsPhrase phrase.getLast? = false ∧
    ∃ earlier ∈ found, ∃ piece, Spread found earlier piece ∧ piece <+: after

/-- What a phrase with its surroundings comes from. -/
structure Trace (found : List (List Char)) (before phrase after text : List Char)
    (start piece rest : List Char) : Prop where
  whole : text = start ++ (piece ++ rest)
  spread : Spread found phrase piece
  starts : joinsPhrase phrase.head? = true → joinsPhrase before.getLast? = false →
    joinsPhrase start.getLast? = false
  ends : joinsPhrase after.head? = false → EndsApart found phrase rest

/-- Every phrase in `rest` comes from a piece of `text`. -/
def Traces (found : List (List Char)) (text rest : List Char) : Prop :=
  ∀ before phrase after, phrase ≠ [] → rest = before ++ (phrase ++ after) →
    ∃ start piece behind, Trace found before phrase after text start piece behind

theorem Traces.refl (text : List Char) : Traces found text text :=
  fun before phrase after _ hrest =>
    ⟨before, phrase, after, hrest, Spread.refl found phrase, fun _ h => h, Or.inl⟩

theorem Traces.trans {text middle rest : List Char} (h : Traces found text middle)
    (hrest : Traces found middle rest) : Traces found text rest := by
  intro before phrase after hphrase hwhole
  obtain ⟨before', phrase', after', hmiddle, hspread, hstarts, hends⟩ :=
    hrest before phrase after hphrase hwhole
  have hphrase' := hspread.ne_nil hphrase
  have hlast : joinsPhrase phrase'.getLast? = false → joinsPhrase phrase.getLast? = false := by
    intro hfalse
    by_contra hjoins
    rw [Bool.not_eq_false] at hjoins
    rw [hspread.joins_getLast? hjoins] at hfalse
    cases hfalse
  have hstart {start : List Char}
      (hstarts' : joinsPhrase phrase'.head? = true → joinsPhrase before'.getLast? = false →
        joinsPhrase start.getLast? = false)
      (hjoins : joinsPhrase phrase.head? = true) (hbefore : joinsPhrase before.getLast? = false) :
      joinsPhrase start.getLast? = false :=
    hstarts' (hspread.joins_head? hjoins) (hstarts hjoins hbefore)
  by_cases hcut : joinsPhrase after.head? = false ∧ joinsPhrase after'.head? = true
  · -- An earlier phrase followed in the middle, so both are traced as one.
    have happart := hends hcut.1
    rw [EndsApart, hcut.2] at happart
    obtain ⟨hphraseLast, earlier, hearlier, gap, hgap, later, rfl⟩ :=
      happart.resolve_left Bool.noConfusion
    rw [← List.append_assoc phrase'] at hmiddle
    obtain ⟨start, both, behind, hwhole', hboth, hstarts', -⟩ :=
      h before' (phrase' ++ gap) later (List.append_ne_nil_of_left_ne_nil hphrase' gap) hmiddle
    obtain ⟨piece, gap', rfl, hpiece, hgap'⟩ := hboth.split
    rw [List.head?_append_of_ne_nil _ hphrase'] at hstarts'
    refine ⟨start, piece, gap' ++ behind, by rw [hwhole', List.append_assoc],
      hspread.trans hpiece, hstart hstarts', fun _ => Or.inr ⟨hphraseLast, earlier, hearlier, gap',
        hgap.trans hgap', List.prefix_append gap' behind⟩⟩
  · -- Nothing in the middle joins the end of the phrase, so the two traces are put together.
    obtain ⟨start, piece, behind, hwhole', hpiece, hstarts', hends'⟩ :=
      h before' phrase' after' hphrase' hmiddle
    refine ⟨start, piece, behind, hwhole', hspread.trans hpiece, hstart hstarts', fun hafter => ?_⟩
    have hafter' : joinsPhrase after'.head? = false := by
      rw [← Bool.not_eq_true]
      exact fun hjoins => hcut ⟨hafter, hjoins⟩
    exact (hends' hafter').imp_right fun hcase => ⟨hlast hcase.1, hcase.2⟩

end Traces

/-! ### Small steps from a text to its rest -/

section Steps

variable {found : List (List Char)}

/-- White space, or a phrase found before that stands between its neighbours on its own. -/
structure IsGap (found : List (List Char)) (before gap after : List Char) : Prop where
  ne_nil : gap ≠ []
  spread : Spread found [' '] gap
  left : joinsPhrase gap.head? = false ∨ joinsPhrase before.getLast? = false ∧ gap ∈ found
  right : joinsPhrase gap.getLast? = false ∨ joinsPhrase after.head? = false

inductive Step (found : List (List Char)) : List Char → List Char → Prop
  | gap {before gap after : List Char} :
      IsGap found before gap after → Step found (before ++ (gap ++ after)) (before ++ ' ' :: after)
  | trim {before cs after : List Char} : (∀ c ∈ before, isBlank c = true) →
      (∀ c ∈ after, isBlank c = true) → Step found (before ++ (cs ++ after)) cs

/-- A text is rewritten into another one by cutting phrases out and collapsing white space. -/
def Clears (found : List (List Char)) : List Char → List Char → Prop :=
  Relation.ReflTransGen (Step found)

theorem inRanges_eq_false {ranges others : List (Nat × Nat)} {c : Char}
    (hapart : ∀ r ∈ ranges, ∀ s ∈ others, r.2 < s.1 ∨ s.2 < r.1) (h : inRanges ranges c = true) :
    inRanges others c = false := by
  obtain ⟨r, hr, hin⟩ := List.any_eq_true.mp h
  rw [inRanges, List.any_eq_false]
  intro s hs hother
  simp only [Bool.and_eq_true, decide_eq_true_eq] at hin hother
  have hrs := hapart r hr s hs
  omega

theorem isAlphanum_eq_false_of_isBlank {c : Char} (h : isBlank c = true) :
    c.isAlphanum = false := by
  rw [← Bool.not_eq_true]
  intro halphanum
  have hascii : isAscii c = true := decide_eq_true (lt_of_isAlphanum halphanum)
  have hcode : c.toNat = 32 ∨ 9 ≤ c.toNat ∧ c.toNat ≤ 13 := by
    rw [isBlank, if_pos hascii, Bool.or_eq_true, decide_eq_true_iff, ← Char.toNat_inj] at h
    simpa using h
  rw [Char.isAlphanum, Bool.or_eq_true] at halphanum
  rcases halphanum with halpha | hdigit
  · have hletter := toNat_of_isAlpha halpha
    omega
  · have hnumber := toNat_of_isDigit hdigit
    omega

theorem ne_underscore_of_isBlank {c : Char} (h : isBlank c = true) : c ≠ '_' := by
  rintro rfl
  exact absurd h (by decide)

theorem joinsPhrase_blank {c : Char} (h : isBlank c = true) : joinsPhrase (some c) = false := by
  have halphanumeric : isAlphanumeric c = false := by
    have hapart : ∀ r ∈ Table.blank, ∀ s ∈ Table.alphanumeric, r.2 < s.1 ∨ s.2 < r.1 := by
      decide +kernel
    rw [isAlphanumeric]
    split
    · exact isAlphanum_eq_false_of_isBlank h
    · rename_i hwide
      rw [isBlank, if_neg hwide] at h
      exact inRanges_eq_false hapart h
  simp [joinsPhrase, halphanumeric, ne_underscore_of_isBlank h]

theorem joinsPhrase_getLast?_blank {cs : List Char} (h : ∀ c ∈ cs, isBlank c = true) :
    joinsPhrase cs.getLast? = false := by
  cases hlast : cs.getLast? with
  | none => rfl
  | some c => exact joinsPhrase_blank (h c (List.mem_of_getLast? hlast))

theorem joinsPhrase_head?_blank {cs : List Char} (h : ∀ c ∈ cs, isBlank c = true) :
    joinsPhrase cs.head? = false := by
  cases hhead : cs.head? with
  | none => rfl
  | some c => exact joinsPhrase_blank (h c (List.mem_of_head? hhead))

theorem joinsPhrase_getLast?_append {front back : List Char}
    (hfront : joinsPhrase front.getLast? = false) (hback : joinsPhrase back.getLast? = false) :
    joinsPhrase (front ++ back).getLast? = false := by
  cases back with
  | nil => rwa [List.append_nil]
  | cons c back => rwa [List.getLast?_append_of_ne_nil _ (List.cons_ne_nil c back)]

section Gaps

variable {front gap back before phrase after middle : List Char}

theorem IsGap.trace_before (hphrase : phrase ≠ [])
    (h : IsGap found (before ++ (phrase ++ middle)) gap after) :
    Trace found before phrase (middle ++ ' ' :: after)
      (before ++ (phrase ++ middle) ++ (gap ++ after)) before phrase
      (middle ++ (gap ++ after)) where
  whole := by simp
  spread := Spread.refl found phrase
  starts := fun _ hfree => hfree
  ends := by
    intro hfree
    cases middle with
    | cons c middle => exact Or.inl hfree
    | nil =>
        rcases h.left with hgap | ⟨hlast, hmem⟩
        · exact Or.inl (by rwa [List.nil_append, List.head?_append_of_ne_nil _ h.ne_nil])
        · rw [List.append_nil, List.getLast?_append_of_ne_nil _ hphrase] at hlast
          exact Or.inr ⟨hlast, gap, hmem, gap, Spread.refl found gap, List.prefix_append gap after⟩

theorem IsGap.trace_across (h : IsGap found (before ++ front) gap (back ++ after)) :
    Trace found before (front ++ ' ' :: back) after (before ++ front ++ (gap ++ (back ++ after)))
      before (front ++ (gap ++ back)) after where
  whole := by simp
  spread := (Spread.refl found front).append (h.spread.append (Spread.refl found back))
  starts := fun _ hfree => hfree
  ends := Or.inl

theorem IsGap.trace_behind (hphrase : phrase ≠ [])
    (h : IsGap found front gap (middle ++ (phrase ++ after))) :
    Trace found (front ++ ' ' :: middle) phrase after
      (front ++ (gap ++ (middle ++ (phrase ++ after)))) (front ++ (gap ++ middle)) phrase
      after where
  whole := by simp
  spread := Spread.refl found phrase
  starts := by
    intro hjoins hfree
    cases middle with
    | cons c middle =>
        rw [List.getLast?_append_of_ne_nil _ (List.cons_ne_nil _ _), List.getLast?_cons_cons]
          at hfree
        rwa [← List.append_assoc, List.getLast?_append_of_ne_nil _ (List.cons_ne_nil c middle)]
    | nil =>
        rw [List.append_nil, List.getLast?_append_of_ne_nil _ h.ne_nil]
        have hright := h.right
        rw [List.nil_append, List.head?_append_of_ne_nil _ hphrase, hjoins] at hright
        exact hright.resolve_right Bool.noConfusion
  ends := Or.inl

theorem IsGap.traces (h : IsGap found front gap back) :
    Traces found (front ++ (gap ++ back)) (front ++ ' ' :: back) := by
  intro before phrase after hphrase hrest
  -- The new space is behind the phrase, in front of it, or in it, perhaps as its first character.
  rcases List.append_eq_append_iff.mp hrest with ⟨middle, rfl, hback⟩ | ⟨middle, rfl, hafter⟩
  · rcases List.cons_eq_append_iff.mp hback with ⟨rfl, hspace⟩ | ⟨middle, rfl, rfl⟩
    · obtain ⟨c, phrase, rfl⟩ := List.exists_cons_of_ne_nil hphrase
      obtain ⟨rfl, rfl⟩ := List.cons.inj hspace
      have hstart : IsGap found (front ++ []) gap (phrase ++ after) :=
        (List.append_nil front).symm ▸ h
      have htrace := hstart.trace_across
      simp only [List.append_nil, List.nil_append] at htrace ⊢
      exact ⟨_, _, _, htrace⟩
    · exact ⟨_, _, _, h.trace_behind hphrase⟩
  · rcases List.append_eq_append_iff.mp hafter with ⟨last, rfl, rfl⟩ | ⟨last, rfl, hspace⟩
    · exact ⟨_, _, _, h.trace_before hphrase⟩
    · rcases List.cons_eq_append_iff.mp hspace with ⟨rfl, rfl⟩ | ⟨last, rfl, rfl⟩
      · rw [List.append_nil] at hphrase ⊢
        have hend : IsGap found (before ++ (middle ++ [])) gap back :=
          (List.append_nil middle).symm ▸ h
        have htrace := hend.trace_before hphrase
        simp only [List.append_nil, List.nil_append] at htrace
        exact ⟨_, _, _, htrace⟩
      · exact ⟨_, _, _, h.trace_across⟩

end Gaps

theorem traces_trim {before cs after : List Char} (hbefore : ∀ c ∈ before, isBlank c = true)
    (hafter : ∀ c ∈ after, isBlank c = true) : Traces found (before ++ (cs ++ after)) cs := by
  rintro front phrase back - rfl
  refine ⟨before ++ front, phrase, back ++ after, by simp, Spread.refl found phrase, ?_, ?_⟩
  · exact fun _ hfree => joinsPhrase_getLast?_append (joinsPhrase_getLast?_blank hbefore) hfree
  · intro hfree
    cases back with
    | nil => exact Or.inl (joinsPhrase_head?_blank hafter)
    | cons c back => exact Or.inl hfree

theorem Step.traces {text rest : List Char} (h : Step found text rest) :
    Traces found text rest := by
  cases h with
  | gap hgap => exact hgap.traces
  | trim hbefore hafter => exact traces_trim hbefore hafter

theorem IsGap.mono {more : List (List Char)} {before gap after : List Char} (hsub : found ⊆ more)
    (h : IsGap found before gap after) : IsGap more before gap after where
  ne_nil := h.ne_nil
  spread := h.spread.mono hsub
  left := h.left.imp_right fun hphrase => ⟨hphrase.1, hsub hphrase.2⟩
  right := h.right

theorem Clears.mono {more : List (List Char)} {text rest : List Char} (hsub : found ⊆ more)
    (h : Clears found text rest) : Clears more text rest := by
  refine Relation.ReflTransGen.mono (fun a b hstep => ?_) text rest h
  cases hstep with
  | gap hgap => exact .gap (hgap.mono hsub)
  | trim hbefore hafter => exact .trim hbefore hafter

theorem Clears.traces {text rest : List Char} (h : Clears found text rest) :
    Traces found text rest := by
  induction h with
  | refl => exact Traces.refl text
  | tail _ hstep ih => exact ih.trans hstep.traces

end Steps

end PartSearch.Text
