import PartSearch.Proofs.FamilyLetters
import PartSearch.Proofs.StandaloneNumbers

/-!
# Where the families find their designators

A family finds a designator of its own at the start of a text, `Listed.exists_at?`, and nothing in
the letters of another family, `Listed.at?_letters`. Behind letters whose hyphen the catalog always
writes no number is long enough for a size, so there the earlier families find the same with and
without the hyphen: `Listed.text_find?`.
-/

namespace PartSearch

namespace Text.Pattern

/-! ### Searching from the start of a text -/

section Search

variable {p : Pattern} {cs : List Char} {m : Found}

theorem findFrom?_skip {skipped before : List Char}
    (h : ∀ a b, b ≠ [] → skipped = a ++ b → p.at? (a.reverse ++ before) (b ++ cs) = none) :
    p.findFrom? before (skipped ++ cs) = p.findFrom? (skipped.reverse ++ before) cs := by
  induction skipped generalizing before with
  | nil => rfl
  | cons c skipped ih =>
      have hfirst := h [] (c :: skipped) (List.cons_ne_nil c skipped) rfl
      rw [List.reverse_nil, List.nil_append, List.cons_append] at hfirst
      rw [List.cons_append, findFrom?, hfirst, ih, List.reverse_cons, List.append_assoc]
      · rfl
      · intro a b hb hskipped
        have hnext := h (c :: a) b hb (by rw [hskipped]; rfl)
        rwa [List.reverse_cons, List.append_assoc] at hnext

theorem find?_eq_of_at? (h : p.at? [] cs = some m) : p.find? cs = some m := by
  rw [find?]
  cases cs with
  | nil => exact h
  | cons c cs => rw [findFrom?, h]

theorem whole_of_at? {before : List Char} (h : p.at? before cs = some m) :
    m.before = before ∧ m.text ++ m.after = cs := by
  obtain ⟨hbefore, hfinds⟩ := finds_of_at? h
  have hwhole := hfinds.whole
  rw [hbefore, List.append_assoc, List.append_cancel_left_eq] at hwhole
  exact ⟨hbefore, hwhole⟩

/-- Between edges no letter that an occurrence starts with is left behind it. -/
theorem lead_of_at?_wordOf {before : List Char} (h : (wordOf p).at? before cs = some m)
    (hne : m.text ≠ []) : lead m.text = lead cs := by
  obtain ⟨-, hwhole⟩ := whole_of_at? h
  have hstops := stops_of_at? h
  rw [← hwhole, lead_append]
  by_cases hany : m.text.any nonLetter = true
  · exact Or.inl hany
  · rw [Bool.not_eq_true] at hany
    right
    obtain ⟨front, c, htext⟩ : ∃ front c, m.text = front ++ [c] :=
      ⟨_, _, (List.dropLast_append_getLast hne).symm⟩
    have hletter : nonLetter c = false :=
      Bool.eq_false_iff.mpr (List.any_eq_false.mp hany c (by rw [htext]; simp))
    have hword := isWordChar_of_letter hletter
    have hbefore : (m.text.reverse ++ before).head?.any isWordChar = true := by
      rw [htext]
      simpa using hword
    rw [isEdge_iff_of_before hbefore] at hstops
    cases hafter : m.after with
    | nil => rfl
    | cons d after =>
        rw [hafter] at hstops
        have hd : isWordChar d = false := hstops
        change nonLetter d = true
        by_contra hletter
        rw [isWordChar_of_letter (Bool.eq_false_iff.mpr hletter)] at hd
        cases hd

/-- Of the places where a pattern can stop, one between edges takes the first that is an edge. -/
theorem before_of_at?_wordOf {before : List Char} (h : (wordOf p).at? before cs = some m) :
    (((p.ends ⟨before, cs, []⟩).filter Place.isEdge).head?).map Place.before =
      some (m.text.reverse ++ before) := by
  have hfilter (places : List Place) : places.flatMap edge.ends = places.filter Place.isEdge := by
    induction places with
    | nil => rfl
    | cons q places ih =>
        rw [List.flatMap_cons, ih, List.filter_cons, ends]
        split <;> rfl
  have hends : (wordOf p).ends ⟨before, cs, []⟩ =
      (p.ends ⟨before, cs, []⟩).filter Place.isEdge := by
    change ((edge.ends _).flatMap p.ends).flatMap edge.ends = _
    rw [hfilter, ends, if_pos (isEdge_of_at? h), List.flatMap_singleton]
  rw [at?, hends] at h
  obtain ⟨q, hq, rfl⟩ := Option.map_eq_some_iff.mp h
  obtain ⟨read, -, hadvances⟩ := (ends_passes (List.mem_filter.mp (List.mem_of_head? hq)).1).reads
  have htext : cs.take (cs.length - q.after.length) = read := by
    simp [show cs = read ++ q.after from hadvances.after]
  rw [hq, Option.map_some, hadvances.before, htext]

theorem at?_wordOf_eq_none {c d : Char} (hc : isWordChar c = true) (hd : isWordChar d = true)
    (before after : List Char) : (wordOf p).at? (c :: before) (d :: after) = none := by
  rw [Option.eq_none_iff_forall_ne_some]
  intro m hm
  have hedge := isEdge_of_at? hm
  simp [Place.isEdge, hc, hd] at hedge

end Search

end Text.Pattern

namespace PackageHit

open Text Text.Pattern

/-! ### What the families read -/

section Families

variable {names others : List String} {name : String} {cs : List Char}

/-- The letters of a family are letters, and none but the three names end in one of these. -/
structure IsLetters (name : String) : Prop where
  ne_nil : name.toList ≠ []
  letters : name.toList.any nonLetter = false
  ne_dpak : name.toList.map caseClass ≠ ['d', 'p', 'a', 'k']
  hyphenated : ∀ other ∈ hyphenated,
    other.toList.map caseClass <:+ name.toList.map caseClass → name = other

theorem isLetters_of_mem (hnames : names ∈ familyLetters) (hname : name ∈ names) :
    IsLetters name := by
  have htable : ∀ names ∈ familyLetters, ∀ name ∈ names, name.toList ≠ [] ∧
      name.toList.any nonLetter = false ∧ name.toList.map caseClass ≠ ['d', 'p', 'a', 'k'] ∧
      ∀ other ∈ hyphenated,
        other.toList.map caseClass <:+ name.toList.map caseClass → name = other := by
    decide +kernel
  obtain ⟨hne, hletters, hdpak, hhyphenated⟩ := htable names hnames name hname
  exact ⟨hne, hletters, hdpak, hhyphenated⟩

def Apart (others names : List String) : Prop :=
  ∀ other ∈ others, ∀ name ∈ names, other.toList.map caseClass ≠ name.toList.map caseClass

instance (others names : List String) : Decidable (Apart others names) :=
  inferInstanceAs (Decidable (∀ other ∈ others, _))

theorem pairwise_familyLetters : familyLetters.Pairwise Apart := by decide +kernel

theorem all_designators : ∀ x ∈ families.zip familyLetters, x.1.2 = .designator := by
  decide +kernel

theorem all_unconditional : ∀ entry ∈ families, entry.1.unconditional = true := by
  decide +kernel

theorem HasNumber.exists_digit {short : Bool} (h : HasNumber short cs) :
    ∃ d rest, cs = d :: rest ∧ isDigit d = true := by
  cases cs with
  | nil => cases h.1
  | cons d rest => exact ⟨d, rest, rfl, h.1⟩

/-- Behind its letters a text goes on with the character `c`, which is the first digit of a number
or the hyphen in front of it. -/
def GoesOn (short : Bool) (letters : List Char) (c : Char) (text : List Char) : Prop :=
  ∃ d behind, isDigit d = true ∧ HasNumber short (d :: behind) ∧
    (c = d ∧ text = letters ++ d :: behind ∨ c = '-' ∧ text = letters ++ '-' :: d :: behind)

theorem Anatomy.goesOn {short : Bool} {text after letters rest : List Char} {c : Char}
    (h : Anatomy names (HasNumber short) text) (hnames : names ∈ familyLetters)
    (hletters : letters.any nonLetter = false) (hc : nonLetter c = true)
    (hwhole : text ++ after = letters ++ c :: rest) :
    ∃ name ∈ names, letters.map caseClass = name.toList.map caseClass ∧
      GoesOn short letters c text := by
  obtain ⟨name, hname, letters', hyphen, behind, rfl, hclass, hhyphen, -, hnumber⟩ := h
  obtain ⟨d, behind, rfl, hd⟩ := hnumber.exists_digit
  have hletters' : letters'.any nonLetter = false := by
    rw [any_nonLetter_of_map_eq hclass, (isLetters_of_mem hnames hname).letters]
  rcases hhyphen with rfl | rfl
  · rw [List.nil_append, List.append_assoc] at hwhole
    obtain ⟨rfl, rfl, -⟩ :=
      append_cons_inj hletters' hletters (nonLetter_of_isDigit hd) hc hwhole
    exact ⟨name, hname, hclass, d, behind, hd, hnumber, Or.inl ⟨rfl, rfl⟩⟩
  · rw [List.append_assoc] at hwhole
    obtain ⟨rfl, rfl, -⟩ := append_cons_inj hletters' hletters (by decide) hc hwhole
    exact ⟨name, hname, hclass, d, behind, hd, hnumber, Or.inr ⟨rfl, rfl⟩⟩

theorem lead_of_leadingDigits (h : 0 < leadingDigits cs) : lead cs = [] := by
  rw [leadingDigits_pos] at h
  cases cs with
  | nil => rfl
  | cons c cs =>
      have hc : isDigit c = true := h
      rw [lead, List.map_cons, List.takeWhile_cons, isAlpha_caseClass_of_isDigit hc]
      rfl

theorem lead_of_designated (hothers : others ∈ familyLetters) (h : Designated others cs) :
    4 ≤ leadingDigits cs ∧ lead cs = [] ∨ lead cs = ['d', 'p', 'a', 'k'] ∨
      ∃ other ∈ others, lead cs = other.toList.map caseClass := by
  rcases h with hanatomy | hdigits | hdpak
  · obtain ⟨other, hother, hspells⟩ := hanatomy.spells
    refine Or.inr (Or.inr ⟨other, hother, ?_⟩)
    rw [hspells.lead_eq, lead_of_letters (isLetters_of_mem hothers hother).letters]
  · exact Or.inl ⟨hdigits, lead_of_leadingDigits (by omega)⟩
  · right
    left
    rw [lead, hdpak]
    rfl

theorem Designated.ne_nil (h : Designated others cs) : cs ≠ [] := by
  rintro rfl
  rcases h with ⟨_, _, letters, hyphen, behind, hwhole, -, -, hstart, -⟩ | hdigits | hdpak
  · obtain ⟨-, hrest⟩ := List.append_eq_nil_iff.mp hwhole.symm
    rw [(List.append_eq_nil_iff.mp hrest).2] at hstart
    cases hstart
  · cases hdigits
  · cases hdpak

/-- Capitals and hyphens change none of the letters that a designator starts with. -/
theorem lead_canonical_of_designated (hothers : others ∈ familyLetters)
    (h : Designated others cs) : lead (canonical cs) = lead cs := by
  rcases h with ⟨other, hother, letters, hyphen, behind, rfl, hclass, hhyphen, -, hnumber⟩ |
    hdigits | hdpak
  · have hletters : letters.any nonLetter = false := by
      rw [any_nonLetter_of_map_eq hclass, (isLetters_of_mem hothers hother).letters]
    obtain ⟨d, behind, rfl, hd⟩ := hnumber.exists_digit
    rcases hhyphen with rfl | rfl
    · exact lead_canonical_append_cons hletters (nonLetter_of_isDigit hd)
        (upperChar_of_isDigit hd) behind
    · exact lead_canonical_append_cons hletters (by decide) (by decide) (d :: behind)
  · have hstart : cs.head?.any isDigit = true := leadingDigits_pos.mp (by omega)
    cases cs with
    | nil => cases hstart
    | cons d cs =>
        exact @lead_canonical_append_cons [] d rfl (nonLetter_of_isDigit hstart)
          (upperChar_of_isDigit hstart) cs
  · refine lead_canonical_of_letters ?_
    rw [@any_nonLetter_of_map_eq cs "DPAK".toList (hdpak.trans (by decide))]
    decide

end Families

/-! ### Where the families find nothing -/

section Nothing

variable {names others : List String} {name : String} {q : Pattern} {letters : List Char}

theorem Listed.designated_of_at? {before cs : List Char} {m : Found} (h : Listed others q)
    (hm : (wordOf q).at? before cs = some m) : Designated others m.text :=
  h.designated m.text (reads_of_wordOf (finds_of_at? hm).2.reads)

/-- Where no letter and no long number stands, no designator starts. -/
theorem Listed.at?_eq_none (h : Listed others q) (hothers : others ∈ familyLetters)
    {cs : List Char} (hlead : lead cs = []) (hdigits : leadingDigits cs < 4)
    (before : List Char) : (wordOf q).at? before cs = none := by
  rw [Option.eq_none_iff_forall_ne_some]
  intro m hm
  have hdesignated := h.designated_of_at? hm
  have htext := lead_of_at?_wordOf hm hdesignated.ne_nil
  have hle : leadingDigits m.text ≤ leadingDigits cs := by
    rw [← (whole_of_at? hm).2]
    exact le_leadingDigits_append
  rw [hlead] at htext
  rcases lead_of_designated hothers hdesignated with ⟨hlong, -⟩ | hdpak | ⟨other, hother, hsame⟩
  · omega
  · rw [htext] at hdpak
    cases hdpak
  · rw [htext, eq_comm, List.map_eq_nil_iff] at hsame
    exact (isLetters_of_mem hothers hother).ne_nil hsame

theorem Listed.at?_letters (h : Listed others q) (hothers : others ∈ familyLetters)
    (hletters : letters.any nonLetter = false) (hname : IsLetters name)
    (hclass : letters.map caseClass = name.toList.map caseClass)
    (hapart : ∀ other ∈ others, other.toList.map caseClass ≠ name.toList.map caseClass)
    {c : Char} (hc : nonLetter c = true) (rest a b : List Char) (hb : b ≠ [])
    (hab : letters = a ++ b) : (wordOf q).at? a.reverse (b ++ c :: rest) = none := by
  obtain ⟨d, b, rfl⟩ := List.exists_cons_of_ne_nil hb
  rcases List.eq_nil_or_concat a with rfl | ⟨a, e, rfl⟩
  · rw [Option.eq_none_iff_forall_ne_some]
    intro m hm
    have hdesignated := h.designated_of_at? hm
    have hlead : lead m.text = name.toList.map caseClass := by
      have hstop : (c :: rest).head?.all nonLetter = true := hc
      rw [lead_of_at?_wordOf hm hdesignated.ne_nil, lead_append (Or.inr hstop),
        show d :: b = letters from hab.symm, lead_of_letters hletters, hclass]
    rcases lead_of_designated hothers hdesignated with ⟨-, hnil⟩ | hdpak | ⟨other, hother, hsame⟩
    · rw [hlead, List.map_eq_nil_iff] at hnil
      exact hname.ne_nil hnil
    · exact hname.ne_dpak (hlead.symm.trans hdpak)
    · exact hapart other hother (hsame.symm.trans hlead)
  · have hword {x : Char} (hx : x ∈ letters) : isWordChar x = true :=
      isWordChar_of_letter (Bool.eq_false_iff.mpr (List.any_eq_false.mp hletters x hx))
    rw [List.concat_eq_append, List.reverse_append]
    exact at?_wordOf_eq_none (hword (by rw [hab]; simp)) (hword (by rw [hab]; simp)) _ _

/-- Behind these letters a family that starts with none of them finds the same text, with and
without a hyphen. -/
theorem Listed.text_find? (h : Listed others q) (hothers : others ∈ familyLetters)
    (hfree : q.unconditional = true) (hletters : letters.any nonLetter = false)
    (hname : IsLetters name) (hclass : letters.map caseClass = name.toList.map caseClass)
    (hapart : ∀ other ∈ others, other.toList.map caseClass ≠ name.toList.map caseClass)
    {d : Char} {rest : List Char} (hd : isDigit d = true) (hshort : leadingDigits (d :: rest) ≤ 3) :
    ((wordOf q).find? (letters ++ d :: rest)).map Found.text =
      ((wordOf q).find? (letters ++ '-' :: d :: rest)).map Found.text := by
  have hother : nonLetter d = true := nonLetter_of_isDigit hd
  have hskip {c : Char} (hc : nonLetter c = true) (after : List Char) :
      (wordOf q).find? (letters ++ c :: after) =
        (wordOf q).findFrom? letters.reverse (c :: after) := by
    have hnone := @Listed.at?_letters others name q letters h hothers hletters hname hclass hapart
      c hc after
    have hfrom := @findFrom?_skip (wordOf q) (c :: after) letters []
      (fun a b hb hab => by rw [List.append_nil]; exact hnone a b hb hab)
    rwa [List.append_nil] at hfrom
  have hpass {before after : List Char} {c : Char}
      (hnone : (wordOf q).at? before (c :: after) = none) :
      (wordOf q).findFrom? before (c :: after) = (wordOf q).findFrom? (c :: before) after := by
    rw [findFrom?, hnone]
  have hglued : (wordOf q).at? letters.reverse (d :: rest) = none := by
    obtain ⟨front, e, hlast⟩ : ∃ front e, letters = front ++ [e] := by
      refine ⟨_, _, (List.dropLast_append_getLast ?_).symm⟩
      rintro rfl
      exact hname.ne_nil (List.map_eq_nil_iff.mp hclass.symm)
    have he : nonLetter e = false :=
      Bool.eq_false_iff.mpr (List.any_eq_false.mp hletters e (by rw [hlast]; simp))
    rw [hlast, List.reverse_append]
    exact at?_wordOf_eq_none (isWordChar_of_letter he) (isWordChar_of_isDigit hd) _ _
  have hhyphen : (wordOf q).at? letters.reverse ('-' :: d :: rest) = none := by
    have hnone : leadingDigits ('-' :: d :: rest) = 0 := rfl
    exact h.at?_eq_none hothers rfl (by omega) _
  have hdigit : (wordOf q).at? ('-' :: letters.reverse) (d :: rest) = none := by
    have hlead : lead (d :: rest) = [] :=
      lead_of_leadingDigits (@leadingDigits_pos (d :: rest) |>.mpr hd)
    exact h.at?_eq_none hothers hlead (Nat.lt_succ_of_le hshort) _
  have hstartless : (wordOf q).startless = true :=
    Bool.and_eq_true_iff.mpr ⟨Bool.and_eq_true_iff.mpr
      ⟨rfl, startless_of_unconditional hfree⟩, rfl⟩
  calc ((wordOf q).find? (letters ++ d :: rest)).map Found.text
    _ = ((wordOf q).findFrom? (d :: letters.reverse) rest).map Found.text := by
        rw [hskip hother, hpass hglued]
    _ = ((wordOf q).findFrom? (d :: '-' :: letters.reverse) rest).map Found.text :=
        text_findFrom? hstartless d _ _ rest
    _ = ((wordOf q).find? (letters ++ '-' :: d :: rest)).map Found.text := by
        rw [hskip (by decide), hpass hhyphen, hpass hdigit]

end Nothing

/-! ### Where a family finds its designators -/

section Own

variable {names : List String} {name : String} {p : Pattern} {letters rest : List Char} {c d : Char}

theorem Listed.exists_at? (h : Listed names p) (hfree : p.unconditional = true) {cs : List Char}
    (hread : p.Reads cs) (hstart : cs.head?.any isWordChar = true) :
    ∃ m, (wordOf p).at? [] cs = some m := by
  obtain ⟨front, back, rfl, hfront, hended, hback⟩ := h.settles cs hread
  have hfirst : (Place.mk [] (front ++ back) []).isEdge = true := by
    rw [isEdge_iff_of_after hstart]
    rfl
  have hlast : (Place.mk (front.reverse ++ []) back []).isEdge = true := by
    have hbefore : (front.reverse ++ []).head?.any isWordChar = true := by
      rw [List.append_nil, List.head?_reverse]
      exact hended
    rw [isEdge_iff_of_before hbefore]
    exact hback
  exact exists_at?_wordOf hfree hfront hfirst hlast

/-- What a family finds at the start of a text with its letters goes on as the text does. -/
theorem Listed.goesOn (h : Listed names p) (hnames : names ∈ familyLetters)
    (hletters : letters.any nonLetter = false) (hne : letters ≠ []) (hc : nonLetter c = true)
    (hdpak : letters.map caseClass ≠ ['d', 'p', 'a', 'k']) {text after : List Char}
    (hread : p.Reads text) (hlead : lead text = letters.map caseClass)
    (hwhole : text ++ after = letters ++ c :: rest) :
    GoesOn (isShort names) letters c text := by
  rcases h.designated text hread with hanatomy | hdigits | hsame
  · obtain ⟨-, -, -, hon⟩ := hanatomy.goesOn hnames hletters hc hwhole
    exact hon
  · rw [lead_of_leadingDigits (by omega), eq_comm, List.map_eq_nil_iff] at hlead
    exact absurd hlead hne
  · rw [lead, hsame] at hlead
    exact absurd hlead.symm hdpak

/-- In front of the hyphen that its letters have, a family stops behind the same texts. -/
theorem SkipsHyphen.text_at? (h : SkipsHyphen name p)
    (hclass : letters.map caseClass = name.toList.map caseClass) (hd : isDigit d = true)
    {m m' : Found} (hm : (wordOf p).at? [] (letters ++ d :: rest) = some m)
    (hm' : (wordOf p).at? [] (letters ++ '-' :: d :: rest) = some m') :
    ∃ behind, m.text = letters ++ behind ∧ m'.text = letters ++ '-' :: behind := by
  obtain ⟨stops, hne, hglued, hhyphen⟩ := h letters d rest hclass hd
  have hbefore := before_of_at?_wordOf hm
  have hbefore' := before_of_at?_wordOf hm'
  have hedges (x : List Char) : (stops.map (Place.behind x)).filter Place.isEdge =
      (stops.filter Place.isEdge).map (Place.behind x) := by
    rw [List.filter_map]
    congr 1
    exact List.filter_congr fun q hq => isEdge_behind (hne q hq)
  rw [hglued, hedges, List.head?_map, Option.map_map, List.append_nil] at hbefore
  rw [hhyphen, hedges, List.head?_map, Option.map_map, List.append_nil] at hbefore'
  obtain ⟨q, hq, htext⟩ := Option.map_eq_some_iff.mp hbefore
  rw [hq, Option.map_some, Option.some_inj] at hbefore'
  refine ⟨q.before.reverse, ?_, ?_⟩
  · have hreverse := congrArg List.reverse htext
    simpa [Place.behind] using hreverse.symm
  · have hreverse := congrArg List.reverse hbefore'
    simpa [Place.behind] using hreverse.symm

end Own

end PackageHit

end PartSearch
