import PartSearch.Proofs.DesignatorAnatomy
import PartSearch.Proofs.PhraseTables

/-!
# Package designators that are taken for part numbers

The families of vendors read no package designator; only the general shape of part numbers does, if
the letters are glued to the number. Some of these are told apart by `looksLikePackage`;
`Model.extract_designator_iff` says that all others are taken for part numbers.
-/

namespace PartSearch.Model

open Text Text.Pattern

/-- One of the families reads the whole text; receptacles are no packages. -/
def IsDesignator (cs : List Char) : Prop :=
  ∃ entry ∈ PackageHit.families, entry.2 ≠ .receptacle ∧ entry.1.Reads cs

/-! ### Names of vendors and names of packages -/

section Names

variable {name : String} {cs : List Char}

theorem toList_of_mem_names (h : name ∈ vendorNames ++ PackageHit.familyNames ++ genericTerms) :
    name.toList = asciiChars name := by
  have hascii : ∀ name ∈ vendorNames ++ PackageHit.familyNames ++ genericTerms,
      ∀ b ∈ bytesOf name, b < 128 := by decide +kernel
  exact toList_eq_asciiChars (hascii name h)

theorem toList_of_mem_vendorNames (h : name ∈ vendorNames) : name.toList = asciiChars name :=
  toList_of_mem_names (by simp [h])

theorem toList_of_mem_familyNames (h : name ∈ PackageHit.familyNames) :
    name.toList = asciiChars name :=
  toList_of_mem_names (by simp [h])

theorem lead_ne_of_mem {vendor : String} (h : vendor ∈ vendorNames)
    (hname : name ∈ PackageHit.familyNames) : lead vendor.toList ≠ lead name.toList := by
  have htable : ∀ vendor ∈ vendorNames, ∀ name ∈ PackageHit.familyNames,
      lead (asciiChars vendor) ≠ lead (asciiChars name) := by decide +kernel
  rw [toList_of_mem_vendorNames h, toList_of_mem_familyNames hname]
  exact htable vendor h name hname

theorem lead_generic_ne_of_mem {term : String} (h : term ∈ genericTerms)
    (hname : name ∈ PackageHit.familyNames) : lead term.toList ≠ lead name.toList := by
  have htable : ∀ term ∈ genericTerms, ∀ name ∈ PackageHit.familyNames,
      lead (asciiChars term) ≠ lead (asciiChars name) := by decide +kernel
  rw [toList_of_mem_names (by simp [h]), toList_of_mem_familyNames hname]
  exact htable term h name hname

theorem letters_of_mem_familyNames (h : name ∈ PackageHit.familyNames) :
    name.toList.any nonLetter = false := by
  have htable : ∀ name ∈ PackageHit.familyNames, (asciiChars name).any nonLetter = false := by
    decide +kernel
  rw [toList_of_mem_familyNames h]
  exact htable name h

/-- A letter that is in no size and behind no hyphen of a designator. -/
def isTelling (c : Char) : Bool := !nonLetter c && !PackageHit.isPlain c

theorem telling_of_mem_vendorNames (h : name ∈ vendorNames) :
    (lead name.toList).length ≠ 1 ∧ name.toList.head?.any (· != '-') = true ∧
      ∃ c ∈ name.toList, isTelling c = true ∧ (lead name.toList = [] → caseClass c ≠ 'm') := by
  have htable : ∀ name ∈ vendorNames, (lead (asciiChars name)).length ≠ 1 ∧
      (asciiChars name).head?.any (· != '-') = true ∧
      (asciiChars name).any (fun c => isTelling c &&
        decide (lead (asciiChars name) = [] → caseClass c ≠ 'm')) = true := by decide +kernel
  rw [toList_of_mem_vendorNames h]
  obtain ⟨hlength, hfirst, hany⟩ := htable name h
  obtain ⟨c, hc, htelling⟩ := List.any_eq_true.mp hany
  rw [Bool.and_eq_true, decide_eq_true_iff] at htelling
  exact ⟨hlength, hfirst, c, hc, htelling⟩

theorem isPlain_of_caseClass_eq {c d : Char} (h : caseClass c = caseClass d)
    (hd : nonLetter d = false) : PackageHit.isPlain c = PackageHit.isPlain d := by
  have hdigit {c : Char} (hc : nonLetter c = false) : isDigit c = false :=
    isDigit_eq_false_of_isAlpha (by simpa [nonLetter] using hc)
  have hc : nonLetter c = false := by rwa [nonLetter, h]
  rw [PackageHit.isPlain, PackageHit.isPlain, hdigit hc, hdigit hd, h]

theorem not_designates_of_spells (hname : name ∈ vendorNames) (h : Spells name cs) :
    ¬ PackageHit.Designates cs := by
  have hlead := h.lead_eq
  obtain ⟨hlength, -, c, hc, htelling, hnotM⟩ := telling_of_mem_vendorNames hname
  -- What tells the vendor is in no size; other designators start with other letters.
  rintro ((⟨hnil, hall⟩ | hletters | hone) | hanatomy)
  · obtain ⟨d, hd, hclass⟩ := h.exists_mem hc
    have hkind := List.all_eq_true.mp hall d hd
    rw [isTelling, nonLetter, Bool.and_eq_true, Bool.not_not, Bool.not_eq_true'] at htelling
    rw [nonLetter, hclass, htelling.1, Bool.not_true, Bool.false_or, decide_eq_true_iff] at hkind
    exact hnotM (hlead ▸ hnil) hkind
  · rw [h.any_nonLetter] at hletters
    cases hletters
  · exact hlength (hlead ▸ hone)
  · obtain ⟨family, hfamily, hspells⟩ := hanatomy.spells
    exact lead_ne_of_mem hname hfamily (hlead.symm.trans hspells.lead_eq)

end Names

/-! ### The general shape -/

def generalShape : Pattern :=
  timesUpTo 2 3 letter ++ timesUpTo 2 3 digit ++ maybe letter ++ many digit ++
    maybe (charOf "-" ++ many1 letterOrDigit)

theorem shapes_eq : shapes = vendorShapes ++ [generalShape] := rfl

def isLetter (c : Char) : Bool := (caseClass c).isAlpha

def isLetterOrDigit (c : Char) : Bool := (caseClass c).isAlphanum

/-- Nothing, or letters and digits behind a hyphen. -/
def IsVariant (cs : List Char) : Prop :=
  cs = [] ∨ ∃ c back, cs = '-' :: c :: back ∧ (c :: back).all isLetterOrDigit = true

/-- Letters, a number directly behind them, perhaps one more letter with digits, and perhaps a
variant behind a hyphen. -/
structure Glued (cs letters number more variant : List Char) : Prop where
  whole : cs = letters ++ (number ++ (more ++ variant))
  isLetters : letters.all isLetter = true ∧ 2 ≤ letters.length ∧ letters.length ≤ 5
  isNumber : number.all isDigit = true ∧ 2 ≤ number.length
  isMore : more = [] ∨ number.length ≤ 5 ∧
    ∃ c digits, more = c :: digits ∧ isLetter c = true ∧ digits.all isDigit = true
  isVariant : IsVariant variant

def IsGlued (cs : List Char) : Prop :=
  ∃ letters number more variant, Glued cs letters number more variant

section Glued

variable {cs letters number more variant : List Char}

theorem isVariant_of_reads (h : (maybe (charOf "-" ++ many1 letterOrDigit)).Reads variant) :
    IsVariant variant := by
  rcases PackageHit.reads_maybe_iff.mp h with hread | rfl
  · obtain ⟨hyphen, back, hhyphen, hback, rfl⟩ := reads_append_iff.mp hread
    obtain ⟨d, hd, rfl⟩ := reads_one_iff.mp hhyphen
    obtain rfl : d = '-' := by simpa using hd
    obtain ⟨first, rest, hfirst, hrest, rfl⟩ := reads_append_iff.mp hback
    obtain ⟨c, hc, rfl⟩ := reads_one_iff.mp hfirst
    refine Or.inr ⟨c, rest, rfl, List.all_eq_true.mpr (List.forall_mem_cons.mpr ⟨hc, ?_⟩)⟩
    exact forall_of_reads_many_one hrest
  · exact Or.inl rfl

theorem isGlued_of_reads (h : generalShape.Reads cs) : IsGlued cs := by
  obtain ⟨a, variant, ha, hvariant, rfl⟩ := reads_append_iff.mp h
  obtain ⟨b, digits, hb, hdigits, rfl⟩ := reads_append_iff.mp ha
  obtain ⟨c, more, hc, hmore, rfl⟩ := reads_append_iff.mp hb
  obtain ⟨letters, number, hletters, hnumber, rfl⟩ := reads_append_iff.mp hc
  have hvariant := isVariant_of_reads hvariant
  obtain ⟨hleast, hmost, hall⟩ := length_of_reads_timesUpTo hletters
  obtain ⟨hleast', hmost', hall'⟩ := length_of_reads_timesUpTo hnumber
  have hdigits : digits.all isDigit = true :=
    List.all_eq_true.mpr (forall_of_reads_many_one hdigits)
  -- Without a letter in between the digits belong to the number.
  rcases PackageHit.reads_maybe_iff.mp hmore with hone | rfl
  · obtain ⟨d, hd, rfl⟩ := reads_one_iff.mp hone
    exact ⟨letters, number, d :: digits, variant, by simp, ⟨hall, hleast, hmost⟩,
      ⟨hall', hleast'⟩, Or.inr ⟨hmost', d, digits, rfl, hd, hdigits⟩, hvariant⟩
  · refine ⟨letters, number ++ digits, [], variant, by simp, ⟨hall, hleast, hmost⟩, ⟨?_, ?_⟩,
      Or.inl rfl, hvariant⟩
    · rw [List.all_append, hall', hdigits]
      rfl
    · rw [List.length_append]
      omega

theorem IsVariant.takes (h : IsVariant variant) :
    (maybe (charOf "-" ++ many1 letterOrDigit)).Takes variant [] [] := by
  rcases h with rfl | ⟨c, back, rfl, hback⟩
  · exact .maybe_absent (ends_one_append_eq_nil rfl)
  · have hhyphen : (charOf "-").Takes ['-'] (c :: back) [] := Takes.char (by decide) _
    exact (hhyphen.seq_last (.many1_one (List.cons_ne_nil c back) hback rfl)).first

theorem head?_append_isLetter {last : List Char} (hlast : last.all isDigit = true)
    (hvariant : variant.head?.any isLetter = false) :
    (last ++ variant).head?.any isLetter = false := by
  cases last with
  | nil => exact hvariant
  | cons d last =>
      have hd : isDigit d = true := List.all_eq_true.mp hlast d List.mem_cons_self
      have hletter : isLetter d = false := isAlpha_caseClass_of_isDigit hd
      simpa using hletter

/-- The shape prefers to read a glued text to its end: up to five digits as the number, one letter
if there is one, and all digits behind it. -/
theorem takes_generalShape {first suffix last : List Char}
    (hcs : cs = letters ++ (first ++ (suffix ++ (last ++ variant))))
    (hletters : letters.all isLetter = true ∧ 2 ≤ letters.length ∧ letters.length ≤ 5)
    (hfirst : first.all isDigit = true ∧ 2 ≤ first.length ∧ first.length ≤ 5)
    (hsuffix : suffix = [] ∧ (first.length = 5 ∨ last = []) ∨
      ∃ c, suffix = [c] ∧ isLetter c = true)
    (hlast : last.all isDigit = true) (hvariant : IsVariant variant) :
    generalShape.Takes cs [] [] := by
  have hend (cls : Char → Bool) (hcls : cls '-' = false) : variant.head?.any cls = false := by
    rcases hvariant with rfl | ⟨c, back, rfl, -⟩
    · rfl
    · exact hcls
  have hreadLetters : (timesUpTo 2 3 letter).Takes letters
      (first ++ (suffix ++ (last ++ variant))) [] := by
    refine .timesUpTo hletters.1 hletters.2.1 hletters.2.2 (Or.inr ?_)
    obtain ⟨d, rest, rfl⟩ := List.exists_cons_of_ne_nil (List.ne_nil_of_length_pos
      (Nat.zero_lt_of_lt hfirst.2.1))
    exact isAlpha_caseClass_of_isDigit (List.all_eq_true.mp hfirst.1 d List.mem_cons_self)
  have hreadFirst : (timesUpTo 2 3 digit).Takes first (suffix ++ (last ++ variant)) [] := by
    refine .timesUpTo hfirst.1 hfirst.2.1 hfirst.2.2 ?_
    rcases hsuffix with ⟨rfl, hfull | rfl⟩ | ⟨c, rfl, hc⟩
    · exact Or.inl hfull
    · exact Or.inr (hend isDigit (by decide))
    · exact Or.inr (isDigit_eq_false_of_isAlpha hc)
  have hreadSuffix : (maybe letter).Takes suffix (last ++ variant) [] := by
    rcases hsuffix with ⟨rfl, -⟩ | ⟨c, rfl, hc⟩
    · have hnone := head?_append_isLetter hlast (hend isLetter (by decide))
      exact .maybe_absent (ends_one_eq_nil hnone)
    · exact (Takes.char hc (last ++ variant)).first
  have hreadLast : (many digit).Takes last variant [] := .many_one hlast (hend isDigit (by decide))
  have hread := (((hreadLetters.seq hreadFirst).seq hreadSuffix).seq hreadLast).seq_last
    hvariant.takes
  rw [hcs, generalShape]
  simpa only [List.append_assoc, List.append_nil] using hread

theorem Glued.takes (h : Glued cs letters number more variant) : generalShape.Takes cs [] [] := by
  rcases h.isMore with rfl | ⟨hnumber, c, digits, rfl, hc, hdigits⟩
  · -- Without a letter the number may go on behind the first five digits.
    have hdigit (ds : List Char) (hds : ds ⊆ number) : ds.all isDigit = true :=
      List.all_eq_true.mpr fun c hc => List.all_eq_true.mp h.isNumber.1 c (hds hc)
    have hcs : cs = letters ++ (number.take 5 ++ ([] ++ (number.drop 5 ++ variant))) := by
      rw [h.whole, List.nil_append, List.nil_append, ← List.append_assoc (number.take 5),
        List.take_append_drop]
    refine takes_generalShape hcs h.isLetters
      ⟨hdigit _ (List.take_subset 5 number), ?_, List.length_take_le 5 number⟩ (Or.inl ⟨rfl, ?_⟩)
      (hdigit _ (List.drop_subset 5 number)) h.isVariant
    · rw [List.length_take]
      exact Nat.le_min.mpr ⟨by omega, h.isNumber.2⟩
    · rw [List.length_take, List.drop_eq_nil_iff]
      omega
  · have hcs : cs = letters ++ (number ++ ([c] ++ (digits ++ variant))) := h.whole
    exact takes_generalShape hcs h.isLetters ⟨h.isNumber.1, h.isNumber.2, hnumber⟩
      (Or.inr ⟨c, rfl, hc⟩) hdigits h.isVariant

/-- A glued text has no hyphen, or one between two texts of word characters. -/
theorem Glued.hyphen (h : Glued cs letters number more variant) :
    (∀ c ∈ cs, isWordChar c = true) ∨ ∃ front back, cs = front ++ '-' :: back ∧ back ≠ [] ∧
      (∀ c ∈ front, isWordChar c = true) ∧ ∀ c ∈ back, isWordChar c = true := by
  have hletter {c : Char} (hc : isLetter c = true) : isWordChar c = true := by
    apply isWordChar_of_isAlphanum_caseClass
    have halpha : (caseClass c).isAlpha = true := hc
    rw [Char.isAlphanum, halpha, Bool.true_or]
  have hfront : ∀ c ∈ letters ++ (number ++ more), isWordChar c = true := by
    intro c hc
    simp only [List.mem_append] at hc
    rcases hc with hc | hc | hc
    · exact hletter (List.all_eq_true.mp h.isLetters.1 c hc)
    · exact isWordChar_of_isDigit (List.all_eq_true.mp h.isNumber.1 c hc)
    · rcases h.isMore with rfl | ⟨-, d, digits, rfl, hd, hdigits⟩
      · cases hc
      · rcases List.mem_cons.mp hc with rfl | hc
        · exact hletter hd
        · exact isWordChar_of_isDigit (List.all_eq_true.mp hdigits c hc)
  have hwhole : cs = letters ++ (number ++ more) ++ variant := by
    rw [h.whole]
    simp only [List.append_assoc]
  rcases h.isVariant with rfl | ⟨c, back, rfl, hback⟩
  · rw [hwhole, List.append_nil]
    exact Or.inl hfront
  · refine Or.inr ⟨_, c :: back, hwhole, List.cons_ne_nil c back, hfront, fun d hd => ?_⟩
    exact isWordChar_of_isAlphanum_caseClass (List.all_eq_true.mp hback d hd)

theorem not_mem_of_isWordChar {c : Char} (hc : isWordChar c = false)
    (h : ∀ d ∈ cs, isWordChar d = true) : c ∉ cs := by
  intro hmem
  rw [h c hmem] at hc
  cases hc

theorem hyphen_not_word : isWordChar '-' = false := by decide

theorem Glued.isWordChar_of_mem (h : Glued cs letters number more variant) {c : Char} (hc : c ∈ cs)
    (hhyphen : c ≠ '-') : isWordChar c = true := by
  rcases h.hyphen with hall | ⟨front, back, rfl, -, hfront, hback⟩
  · exact hall c hc
  · rcases List.mem_append.mp hc with hc | hc
    · exact hfront c hc
    · exact hback c ((List.mem_cons.mp hc).resolve_left hhyphen)

/-- There is one way only to split it at a hyphen. -/
theorem Glued.back_unique (h : Glued cs letters number more variant)
    {front front' back back' : List Char} (hcs : cs = front ++ '-' :: back)
    (hcs' : cs = front' ++ '-' :: back') : back = back' := by
  rcases h.hyphen with hall | ⟨first, last, hwhole, -, hfirst, hlast⟩
  · refine absurd ?_ (not_mem_of_isWordChar hyphen_not_word hall)
    rw [hcs]
    simp
  · have hunique {front back : List Char} (hcs : cs = front ++ '-' :: back) : last = back := by
      rw [hwhole] at hcs
      exact ((List.append_cons_inj_of_notMem (not_mem_of_isWordChar hyphen_not_word hfirst)
        (not_mem_of_isWordChar hyphen_not_word hlast)).mp hcs).2.2
    rw [← hunique hcs, hunique hcs']

theorem Glued.exists_digit (h : Glued cs letters number more variant) :
    ∃ d rest, cs = letters ++ d :: rest ∧ isDigit d = true ∧ nonLetter d = true := by
  obtain ⟨d, rest, hnumber⟩ := List.exists_cons_of_ne_nil (List.ne_nil_of_length_pos
    (Nat.zero_lt_of_lt h.isNumber.2))
  have hdigit : isDigit d = true :=
    List.all_eq_true.mp h.isNumber.1 d (hnumber ▸ List.mem_cons_self)
  refine ⟨d, rest ++ (more ++ variant), by rw [h.whole, hnumber]; rfl, hdigit, ?_⟩
  rw [nonLetter, isAlpha_caseClass_of_isDigit hdigit]
  rfl

theorem Glued.lead_eq (h : Glued cs letters number more variant) :
    lead cs = letters.map caseClass := by
  obtain ⟨d, rest, rfl, -, hother⟩ := h.exists_digit
  have hstop : (d :: rest).head?.all nonLetter = true := hother
  rw [lead_append (Or.inr hstop), lead_of_letters]
  rw [List.any_eq_false]
  intro c hc
  have hletter : (caseClass c).isAlpha = true := List.all_eq_true.mp h.isLetters.1 c hc
  simp [nonLetter, hletter]

theorem Glued.head? (h : Glued cs letters number more variant) :
    cs.head?.any isWordChar = true := by
  obtain ⟨c, rest, rfl⟩ := List.exists_cons_of_ne_nil (List.ne_nil_of_length_pos
    (Nat.zero_lt_of_lt h.isLetters.2.1))
  have hletter : isLetter c = true := List.all_eq_true.mp h.isLetters.1 c List.mem_cons_self
  have hne : c ≠ '-' := by
    rintro rfl
    exact absurd hletter (by decide)
  rw [h.whole]
  exact h.isWordChar_of_mem (by rw [h.whole]; exact List.mem_cons_self) hne

theorem Glued.getLast? (h : Glued cs letters number more variant) :
    cs.getLast?.any isWordChar = true := by
  have hlast {ds : List Char} (hne : ds ≠ []) (hall : ∀ c ∈ ds, isWordChar c = true) :
      ds.getLast?.any isWordChar = true := by
    rw [List.getLast?_eq_some_getLast hne]
    exact hall _ (List.getLast_mem hne)
  rcases h.hyphen with hall | ⟨front, back, hcs, hne, -, hback⟩
  · obtain ⟨d, rest, hcs, -⟩ := h.exists_digit
    exact hlast (by rw [hcs]; simp) hall
  · rw [hcs, List.getLast?_append_of_ne_nil _ (List.cons_ne_nil _ _)]
    obtain ⟨c, back, rfl⟩ := List.exists_cons_of_ne_nil hne
    rw [List.getLast?_cons_cons]
    exact hlast hne hback

theorem Glued.not_unglued (h : Glued cs letters number more variant) : ¬ PackageHit.Unglued cs := by
  have hlength : 2 ≤ (lead cs).length := by
    rw [h.lead_eq, List.length_map]
    exact h.isLetters.2.1
  rintro (⟨hnil, -⟩ | hletters | hone)
  · rw [hnil] at hlength
    exact absurd hlength (by decide)
  · obtain ⟨d, rest, rfl, -, hother⟩ := h.exists_digit
    rw [List.any_append, List.any_cons, hother, Bool.true_or, Bool.or_true] at hletters
    cases hletters
  · omega

end Glued

/-! ### Designators that are taken -/

section Designators

variable {cs letters number more variant : List Char}

theorem isDesignator_of_find? (h : PackageHit.families.any (fun entry =>
    entry.2 ≠ .receptacle && ((wordOf entry.1).find? cs).any (·.text = cs)) = true) :
    IsDesignator cs := by
  obtain ⟨entry, hentry, hfound⟩ := List.any_eq_true.mp h
  rw [Bool.and_eq_true, decide_eq_true_iff, Option.any_eq_true] at hfound
  obtain ⟨hmeaning, m, hm, htext⟩ := hfound
  refine ⟨entry, hentry, hmeaning, ?_⟩
  rw [← of_decide_eq_true htext]
  exact (starts_of_find? hm).1

theorem IsDesignator.designates (h : IsDesignator cs) : PackageHit.Designates cs := by
  obtain ⟨entry, hentry, hmeaning, hread⟩ := h
  exact PackageHit.designates_of_mem_families hentry hmeaning cs hread

/-- In a glued designator nothing stands between the letters of the family and the number. -/
theorem Glued.eq_append_of_anatomy {kind : List Char → Prop}
    (h : Glued cs letters number more variant)
    (hanatomy : PackageHit.Anatomy PackageHit.familyNames kind cs) :
    ∃ behind, cs = letters ++ behind ∧ kind behind := by
  obtain ⟨name, hname, letters', hyphen, behind, hwhole, hmap, hhyphen, hstart, hkind⟩ := hanatomy
  have hlead : lead cs = lead name.toList := hwhole ▸ (spells_append hmap hhyphen hstart).lead_eq
  rw [h.lead_eq, lead_of_letters (letters_of_mem_familyNames hname), ← hmap] at hlead
  have hlength : letters.length = letters'.length := by
    simpa using congrArg List.length hlead
  obtain ⟨d, rest, hcs, hdigit, -⟩ := h.exists_digit
  obtain ⟨rfl, hrest⟩ := List.append_inj (hcs.symm.trans hwhole) hlength
  rcases hhyphen with rfl | rfl
  · exact ⟨behind, hwhole, hkind⟩
  · obtain ⟨rfl, -⟩ := List.cons.inj hrest
    exact absurd hdigit (by decide)

theorem Glued.anatomy (h : Glued cs letters number more variant)
    (hdesignator : PackageHit.Designates cs) :
    PackageHit.Anatomy PackageHit.familyNames PackageHit.PlainEnded cs :=
  hdesignator.resolve_left h.not_unglued

/-- What stands behind the hyphen of a glued designator is plain. -/
theorem Glued.isPlain_back {front back : List Char} (h : Glued cs letters number more variant)
    (hdesignator : PackageHit.Designates cs) (hcs : cs = front ++ '-' :: back) :
    ∀ c ∈ back, PackageHit.isPlain c = true := by
  obtain ⟨behind, hbehind, hended⟩ := h.eq_append_of_anatomy (h.anatomy hdesignator)
  rcases hended with hbody | ⟨front', back', hfront', hback', rfl | rfl⟩
  · have hmem : '(' ∈ cs := hbehind ▸ List.mem_append_right letters hbody
    exact absurd (h.isWordChar_of_mem hmem (by decide)) (by decide)
  · have hmem : '-' ∈ letters ++ behind := by
      rw [← hbehind, hcs]
      simp
    refine absurd ((List.mem_append.mp hmem).resolve_right hfront') fun hletter => ?_
    exact absurd (List.all_eq_true.mp h.isLetters.1 '-' hletter) (by decide)
  · rw [← List.append_assoc] at hbehind
    rwa [h.back_unique hcs hbehind]

theorem Glued.not_starts (h : Glued cs letters number more variant)
    (hdesignator : PackageHit.Designates cs) {vendor : String} (hvendor : vendor ∈ vendorNames)
    {text after : List Char} (hspells : Spells vendor text) : cs ≠ text ++ after := by
  intro hcs
  obtain ⟨name, hname, hspells'⟩ := (h.anatomy hdesignator).spells
  have hlead := hspells'.lead_eq
  rw [hcs, hspells.lead_append] at hlead
  exact lead_ne_of_mem hvendor hname hlead

theorem Glued.not_behind_hyphen (h : Glued cs letters number more variant)
    (hdesignator : PackageHit.Designates cs) {vendor : String} (hvendor : vendor ∈ vendorNames)
    {front text after : List Char} (hspells : Spells vendor text) :
    cs ≠ front ++ '-' :: (text ++ after) := by
  intro hcs
  obtain ⟨-, -, c, hc, htelling, -⟩ := telling_of_mem_vendorNames hvendor
  obtain ⟨d, hd, hclass⟩ := hspells.exists_mem hc
  have hplain := h.isPlain_back hdesignator hcs d (List.mem_append_left after hd)
  rw [isTelling, Bool.and_eq_true, Bool.not_eq_true', Bool.not_eq_true'] at htelling
  rw [isPlain_of_caseClass_eq hclass htelling.1, htelling.2] at hplain
  cases hplain

/-- The families of vendors find nothing in a glued designator. -/
theorem Glued.find?_eq_none (h : Glued cs letters number more variant)
    (hdesignator : PackageHit.Designates cs) {p : Pattern} (hp : p ∈ vendorShapes) :
    (wordOf p).find? cs = none := by
  rw [Option.eq_none_iff_forall_ne_some]
  intro m hm
  obtain ⟨hreads, hcs, hedge⟩ := starts_of_find? hm
  obtain ⟨vendor, hvendor, hspells⟩ := spelled_vendorShapes p hp m.text hreads
  obtain ⟨-, hfirst, -⟩ := telling_of_mem_vendorNames hvendor
  obtain ⟨c, rest, htext, hc⟩ := hspells.exists_cons hfirst
  have hword : isWordChar c = true := h.isWordChar_of_mem (by rw [hcs, htext]; simp) hc
  rw [htext, List.cons_append] at hedge
  -- The only edges of a glued text with a word character behind them are at its start and hyphen.
  rcases eq_nil_or_of_isEdge hedge hword with hnil | ⟨d, front, hbefore, hd⟩
  · rw [hnil, List.reverse_nil, List.nil_append] at hcs
    exact h.not_starts hdesignator hvendor hspells hcs
  · obtain rfl : d = '-' := by
      by_contra hne
      rw [h.isWordChar_of_mem (by rw [hcs, hbefore]; simp) hne] at hd
      cases hd
    rw [hbefore, List.reverse_cons, List.append_assoc, List.singleton_append] at hcs
    exact h.not_behind_hyphen hdesignator hvendor hspells hcs

theorem lead_asciiUpper (cs : List Char) : lead (asciiUpper cs) = lead cs := by
  have hclass : caseClass ∘ Char.toUpper = caseClass := funext caseClass_toUpper
  rw [lead, asciiUpper, List.map_map, hclass, lead]

theorem Glued.isPlausible (h : Glued cs letters number more variant)
    (hdesignator : PackageHit.Designates cs)
    (hlooks : looksLikePackage (asciiUpper cs) = false) : isPlausible cs = true := by
  have hterm : genericTerms.contains (String.ofList (asciiUpper cs)) = false := by
    rw [← Bool.not_eq_true, List.contains_iff_mem]
    intro hmem
    obtain ⟨name, hname, hspells⟩ := (h.anatomy hdesignator).spells
    refine lead_generic_ne_of_mem hmem hname ?_
    rw [String.toList_ofList, lead_asciiUpper, hspells.lead_eq]
  rw [Model.isPlausible, hterm, hlooks]
  rfl

theorem Glued.findSome?_occurrence (h : Glued cs letters number more variant)
    (hdesignator : PackageHit.Designates cs)
    (hlooks : looksLikePackage (asciiUpper cs) = false) :
    shapes.findSome? (occurrence? cs) = some ⟨[], cs, [], []⟩ := by
  have hvendors : vendorShapes.findSome? (occurrence? cs) = none := by
    rw [List.findSome?_eq_none_iff]
    intro p hp
    rw [occurrence?, h.find?_eq_none hdesignator hp]
    rfl
  rw [shapes_eq, List.findSome?_append, hvendors, Option.none_or, List.findSome?_singleton,
    occurrence?, h.takes.find?_wordOf h.head? h.getLast?]
  exact if_pos (h.isPlausible hdesignator hlooks)

theorem extract_of_glued {m : String} (h : IsDesignator m.toList) (hglued : IsGlued m.toList)
    (hlooks : looksLikePackage (asciiUpper m.toList) = false) : extract m = (some m, "") := by
  obtain ⟨letters, number, more, variant, hglued⟩ := hglued
  rw [extract, hglued.findSome?_occurrence h.designates hlooks]
  simp only [String.ofList_toList]
  rfl

theorem reads_of_extract {text m rest : String} (h : extract text = (some m, rest)) :
    (∃ shape ∈ shapes, shape.Reads m.toList) ∧ isPlausible m.toList = true := by
  rw [extract] at h
  split at h
  · rename_i found hfound
    obtain ⟨shape, hshape, hoccurrence⟩ := List.exists_of_findSome?_eq_some hfound
    obtain ⟨hfind, hplausible⟩ := Option.filter_eq_some_iff.mp hoccurrence
    obtain ⟨hm, -⟩ := Prod.mk.inj h
    rw [← Option.some.inj hm, String.toList_ofList]
    exact ⟨⟨shape, hshape, (starts_of_find? hfind).1⟩, hplausible⟩
  · cases (Prod.mk.inj h).1

theorem isGlued_of_mem_shapes {shape : Pattern} (hshape : shape ∈ shapes)
    (hread : shape.Reads cs) (hdesignator : PackageHit.Designates cs) : IsGlued cs := by
  rw [shapes_eq, List.mem_append, List.mem_singleton] at hshape
  rcases hshape with hvendor | rfl
  · obtain ⟨name, hname, hspells⟩ := spelled_vendorShapes shape hvendor cs hread
    exact absurd hdesignator (not_designates_of_spells hname hspells)
  · exact isGlued_of_reads hread

/-- A designator is taken for a part number exactly if it is glued and is not told apart as one of
the listed families with a pin count. -/
theorem extract_designator_iff {m : String} (h : IsDesignator m.toList) :
    (∃ text rest, extract text = (some m, rest)) ↔
      IsGlued m.toList ∧ looksLikePackage (asciiUpper m.toList) = false := by
  constructor
  · rintro ⟨text, rest, hextract⟩
    obtain ⟨⟨shape, hshape, hread⟩, hplausible⟩ := reads_of_extract hextract
    refine ⟨isGlued_of_mem_shapes hshape hread h.designates, ?_⟩
    rw [isPlausible, Bool.and_eq_true, Bool.not_eq_true', Bool.not_eq_true'] at hplausible
    exact hplausible.2
  · rintro ⟨hglued, hlooks⟩
    exact ⟨m, "", extract_of_glued h hglued hlooks⟩

/-- The family is not listed. -/
theorem extract_designator_iff_vqfn32 :
    IsDesignator "VQFN32".toList ∧ ∃ text rest, extract text = (some "VQFN32", rest) := by
  have hdesignator : IsDesignator "VQFN32".toList := isDesignator_of_find? (by decide +kernel)
  refine ⟨hdesignator, (extract_designator_iff hdesignator).mpr ⟨?_, by decide +kernel⟩⟩
  exact ⟨"VQFN".toList, "32".toList, [], [], by decide, by decide +kernel, by decide, Or.inl rfl,
    Or.inl rfl⟩

/-- The family is listed, but something else than its pin count comes behind. -/
theorem extract_takes_sot23Variant :
    extract "SOT23-5" = (some "SOT23-5", "") ∧ IsDesignator "SOT23-5".toList :=
  ⟨by decide +kernel, isDesignator_of_find? (by decide +kernel)⟩

end Designators

end PartSearch.Model
