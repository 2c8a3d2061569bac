import PartSearch.Proofs.FamilySearch

/-!
# Designators with and without their hyphen

A designator is read with and without the hyphen behind its letters, but only three families are
always given one. So the two spellings are the same package for these, and for no others, unless a
family that is tried earlier takes the same package out of both: `packages_eq_iff`.
-/

namespace PartSearch.PackageHit

open Text Text.Pattern

/-- A family reads a designator with and without a hyphen right behind its letters. -/
structure Respelled (p : Pattern) (letters behind : List Char) : Prop where
  all_letters : letters.any nonLetter = false
  glued : p.Reads (letters ++ behind)
  hyphened : p.Reads (letters ++ '-' :: behind)

/-- The package that the first of some families to occur in a text says. -/
def packageIn (tried : List (Pattern × Meaning)) (cs : List Char) : Option String :=
  (tried.findSome? fun (p, meaning) =>
    (occurrence? p meaning cs).map fun m => (meaning, m)).bind fun (meaning, m) =>
      (ofOccurrence (String.ofList cs) meaning m).1.package

theorem package_extract (cs : List Char) :
    (extract (String.ofList cs)).1.package = packageIn families cs := by
  rw [extract, String.toList_ofList, packageIn]
  dsimp only
  split
  · rename_i hfirst
    rw [hfirst]
    rfl
  · rename_i hfirst
    rw [hfirst]
    rfl

section Tried

variable {earlier later : List (Pattern × Meaning)} {p : Pattern} {cs : List Char}

theorem packageIn_cons (p : Pattern) (later : List (Pattern × Meaning)) (cs : List Char) :
    packageIn ((p, .designator) :: later) cs =
      (((wordOf p).find? cs).map fun m => String.ofList (canonical m.text)).or
        (packageIn later cs) := by
  have hoccurrence : occurrence? p .designator cs = (wordOf p).find? cs := rfl
  rw [packageIn, List.findSome?_cons]
  dsimp only
  rw [hoccurrence]
  cases (wordOf p).find? cs <;> rfl

theorem packageIn_append (h : ∀ entry ∈ earlier, entry.2 = .designator) :
    packageIn (earlier ++ later) cs = (packageIn earlier cs).or (packageIn later cs) := by
  induction earlier with
  | nil => rfl
  | cons entry earlier ih =>
      obtain ⟨hentry, hearlier⟩ := List.forall_mem_cons.mp h
      obtain ⟨p, meaning⟩ := entry
      obtain rfl : meaning = .designator := hentry
      rw [List.cons_append, packageIn_cons, packageIn_cons, ih hearlier, Option.or_assoc]

theorem packageIn_congr {cs' : List Char} (h : ∀ entry ∈ earlier, entry.2 = .designator)
    (hsame : ∀ entry ∈ earlier, ((wordOf entry.1).find? cs).map Found.text =
      ((wordOf entry.1).find? cs').map Found.text) :
    packageIn earlier cs = packageIn earlier cs' := by
  induction earlier with
  | nil => rfl
  | cons entry earlier ih =>
      obtain ⟨hentry, hearlier⟩ := List.forall_mem_cons.mp h
      obtain ⟨hfirst, hrest⟩ := List.forall_mem_cons.mp hsame
      obtain ⟨p, meaning⟩ := entry
      obtain rfl : meaning = .designator := hentry
      have hpackage := congrArg (Option.map fun text => String.ofList (canonical text)) hfirst
      rw [Option.map_map, Option.map_map] at hpackage
      rw [packageIn_cons, packageIn_cons, ih hearlier hrest]
      exact congrArg (Option.or · (packageIn earlier cs')) hpackage

/-- Where neither fallback is what the other side says already, both sides say the same only if they
say it already, or if both fall back. -/
theorem exists_or_some {said said' : Option String} {fallback fallback' : String}
    (h : said' ≠ some fallback) (h' : said ≠ some fallback') :
    ∃ package package', said.or (some fallback) = some package ∧
      said'.or (some fallback') = some package' ∧
      (package = package' ↔ said = none ∧ said' = none ∧ fallback = fallback' ∨
        ∃ package, said = some package ∧ said' = some package) := by
  cases said with
  | none =>
      cases said' with
      | none => exact ⟨fallback, fallback', rfl, rfl, by simp⟩
      | some package' =>
          have hne : fallback ≠ package' := fun hsame => h (congrArg some hsame.symm)
          exact ⟨fallback, package', rfl, rfl, by simp [hne]⟩
  | some package =>
      cases said' with
      | none =>
          have hne : package ≠ fallback' := fun hsame => h' (congrArg some hsame)
          exact ⟨package, fallback', rfl, rfl, by simp [hne]⟩
      | some package' => exact ⟨package, package', rfl, rfl, by simp [eq_comm]⟩

theorem exists_of_packageIn (h : ∀ entry ∈ earlier, entry.2 = .designator) {package : String}
    (hpackage : packageIn earlier cs = some package) :
    ∃ entry ∈ earlier, ∃ m, (wordOf entry.1).find? cs = some m ∧
      package = String.ofList (canonical m.text) := by
  induction earlier with
  | nil => cases hpackage
  | cons entry earlier ih =>
      obtain ⟨hentry, hearlier⟩ := List.forall_mem_cons.mp h
      obtain ⟨p, meaning⟩ := entry
      obtain rfl : meaning = .designator := hentry
      rw [packageIn_cons] at hpackage
      cases hfind : (wordOf p).find? cs with
      | some m =>
          rw [hfind, Option.map_some, Option.some_or, Option.some_inj] at hpackage
          exact ⟨_, List.mem_cons_self, m, hfind, hpackage.symm⟩
      | none =>
          rw [hfind, Option.map_none, Option.none_or] at hpackage
          obtain ⟨entry, hmem, hfound⟩ := ih hearlier hpackage
          exact ⟨entry, List.mem_cons_of_mem _ hmem, hfound⟩

end Tried

/-! ### The place of a family among the others -/

/-- A family whose letters are listed, and families before it that have other letters. -/
structure Placed (earlier : List (Pattern × Meaning)) (p : Pattern) (names : List String) :
    Prop where
  mem : names ∈ familyLetters
  listed : Listed names p
  unconditional : p.unconditional = true
  designators : ∀ entry ∈ earlier, entry.2 = .designator
  others : ∀ entry ∈ earlier, entry.1.unconditional = true ∧
    ∃ others ∈ familyLetters, Listed others entry.1 ∧ Apart others names

section Placed

variable {earlier later : List (Pattern × Meaning)} {entry : Pattern × Meaning}
  {letters behind : List Char}

theorem unhyphenated_codes : ∀ entry ∈ families.drop 16, entry.2 ≠ .receptacle →
    ReadsOnly entry.1 Unhyphenated := by
  have happend {a : List Char} {name : String} {c : Char} (hname : '-' ∉ name.toList.map caseClass)
      (ha : a.map caseClass = name.toList.map caseClass) (hc : c ≠ '-') : '-' ∉ a ++ [c] := by
    rw [List.mem_append, List.mem_singleton, not_or]
    exact ⟨fun hmem => hname (hyphen_mem_of_map_eq ha hmem), hc.symm⟩
  simp only [families, List.drop_succ_cons, List.drop_zero, List.forall_mem_cons]
  refine ⟨fun _ read hread => ?_, fun _ read hread => ?_, fun h => absurd rfl h, by simp⟩
  · obtain ⟨a, b, ha, hb, rfl⟩ := reads_append_iff.mp hread
    obtain ⟨c, hc, rfl⟩ := reads_one_iff.mp hb
    refine happend (by decide) (reads_caseless_iff.mp ha) ?_
    rintro rfl
    exact absurd hc (by decide)
  · obtain ⟨a, b, ha, hb, rfl⟩ := reads_append_iff.mp hread
    obtain ⟨c, hc, rfl⟩ := reads_one_iff.mp hb
    refine happend (by decide) (reads_caseless_iff.mp ha) ?_
    rintro rfl
    exact absurd hc (by decide)

theorem Respelled.length_lt (h : Respelled entry.1 letters behind)
    (hfamilies : families = earlier ++ entry :: later) (hmeaning : entry.2 ≠ .receptacle) :
    earlier.length < familyLetters.length := by
  by_contra hlong
  have hmem : entry ∈ families.drop 16 := by
    have hle : 16 ≤ earlier.length := Nat.not_lt.mp hlong
    rw [hfamilies, List.drop_append_of_le_length hle]
    exact List.mem_append_right _ List.mem_cons_self
  have hnone := unhyphenated_codes entry hmem hmeaning _ h.hyphened
  exact hnone (by simp)

theorem exists_placed (h : families = earlier ++ entry :: later)
    (hlength : earlier.length < familyLetters.length) :
    ∃ names, Placed earlier entry.1 names ∧ entry.2 = .designator := by
  obtain ⟨front, names, back, hletters, hfront⟩ : ∃ front names back,
      familyLetters = front ++ names :: back ∧ earlier.length = front.length := by
    refine ⟨familyLetters.take earlier.length, familyLetters[earlier.length],
      familyLetters.drop (earlier.length + 1), ?_, ?_⟩
    · rw [List.getElem_cons_drop, List.take_append_drop]
    · rw [List.length_take]
      omega
  have hzip : families.zip familyLetters =
      earlier.zip front ++ (entry, names) :: later.zip back := by
    rw [h, hletters, List.zip_append hfront]
    rfl
  have hlisted := listed_families
  have hdesignators := all_designators
  have hapart := pairwise_familyLetters
  rw [hzip, List.forall_mem_append, List.forall_mem_cons] at hlisted hdesignators
  rw [hletters, List.pairwise_append] at hapart
  have hpair {e : Pattern × Meaning} (he : e ∈ earlier) :
      ∃ others, (e, others) ∈ earlier.zip front := by
    have hfst : (earlier.zip front).map Prod.fst = earlier :=
      List.map_fst_zip (Nat.le_of_eq hfront)
    rw [← hfst] at he
    obtain ⟨⟨e', others⟩, hpair, rfl⟩ := List.mem_map.mp he
    exact ⟨others, hpair⟩
  have hmem {e : Pattern × Meaning} (he : e ∈ earlier) : e ∈ families := by
    rw [h]
    exact List.mem_append_left _ he
  have hself : entry ∈ families := by
    rw [h]
    exact List.mem_append_right _ List.mem_cons_self
  refine ⟨names, ⟨?_, hlisted.2.1, all_unconditional entry hself, fun e he => ?_, fun e he => ?_⟩,
    hdesignators.2.1⟩
  · rw [hletters]
    exact List.mem_append_right _ List.mem_cons_self
  · obtain ⟨others, hothers⟩ := hpair he
    exact hdesignators.1 _ hothers
  · obtain ⟨others, hothers⟩ := hpair he
    have hmem' : others ∈ front := (List.of_mem_zip hothers).2
    refine ⟨all_unconditional e (hmem he), others, ?_, hlisted.1 _ hothers, ?_⟩
    · rw [hletters]
      exact List.mem_append_left _ hmem'
    · exact hapart.2.2 others hmem' names List.mem_cons_self

end Placed

/-! ### Both spellings -/

/-- What a family finds in the two spellings of a designator. -/
structure FoundTwice (p : Pattern) (letters : List Char) (d : Char) (rest : List Char)
    (m m' : Found) : Prop where
  glued : (wordOf p).at? [] (letters ++ d :: rest) = some m
  hyphened : (wordOf p).at? [] (letters ++ '-' :: d :: rest) = some m'
  text_glued : ∃ more, m.text = letters ++ d :: more
  text_hyphened : ∃ d' more, isDigit d' = true ∧ m'.text = letters ++ '-' :: d' :: more

section Spellings

variable {earlier : List (Pattern × Meaning)} {p : Pattern} {names : List String} {name : String}
  {letters behind rest : List Char} {d : Char} {m m' : Found}

theorem Respelled.exists_number (h : Respelled p letters behind)
    (hplaced : Placed earlier p names) :
    ∃ name ∈ names, letters.map caseClass = name.toList.map caseClass ∧
      ∃ d rest, behind = d :: rest ∧ isDigit d = true ∧ HasNumber (isShort names) behind := by
  rcases hplaced.listed.designated _ h.hyphened with hanatomy | hdigits | hdpak
  · obtain ⟨name, hname, hclass, d, rest, hd, hnumber, ⟨rfl, -⟩ | ⟨-, hbehind⟩⟩ :=
      hanatomy.goesOn hplaced.mem h.all_letters (by decide) (List.append_nil _)
    · exact absurd hd (by decide)
    · obtain ⟨-, rfl⟩ := List.cons.inj (List.append_cancel_left hbehind)
      exact ⟨name, hname, hclass, d, rest, rfl, hd, hnumber⟩
  · have hstart := leadingDigits_pos.mp (Nat.lt_of_lt_of_le (Nat.zero_lt_succ 3) hdigits)
    have hletters := h.all_letters
    cases letters with
    | nil =>
        have hsign : isDigit '-' = true := hstart
        exact absurd hsign (by decide)
    | cons c letters =>
        have hdigit : isDigit c = true := hstart
        rw [List.any_cons, nonLetter_of_isDigit hdigit, Bool.true_or] at hletters
        cases hletters
  · have hmem : caseClass '-' ∈ (letters ++ '-' :: behind).map caseClass :=
      List.mem_map_of_mem (by simp)
    rw [hdpak] at hmem
    exact absurd hmem (by decide)

theorem Respelled.exists_foundTwice (h : Respelled p letters (d :: rest))
    (hplaced : Placed earlier p names) (hname : IsLetters name)
    (hclass : letters.map caseClass = name.toList.map caseClass) (hd : isDigit d = true) :
    ∃ m m', FoundTwice p letters d rest m m' := by
  have hne : letters ≠ [] := by
    rintro rfl
    exact hname.ne_nil (List.map_eq_nil_iff.mp hclass.symm)
  have hdpak : letters.map caseClass ≠ ['d', 'p', 'a', 'k'] := hclass ▸ hname.ne_dpak
  have hstart (cs : List Char) : (letters ++ cs).head?.any isWordChar = true := by
    obtain ⟨c, letters', rfl⟩ := List.exists_cons_of_ne_nil hne
    exact isWordChar_of_letter (Bool.or_eq_false_iff.mp h.all_letters).1
  have htext {c : Char} {cs : List Char} {m : Found} (hc : nonLetter c = true)
      (hm : (wordOf p).at? [] (letters ++ c :: cs) = some m) :
      GoesOn (isShort names) letters c m.text := by
    have hread : p.Reads m.text := reads_of_wordOf (finds_of_at? hm).2.reads
    have hlead : lead m.text = letters.map caseClass := by
      have hstop : (c :: cs).head?.all nonLetter = true := hc
      rw [lead_of_at?_wordOf hm (hplaced.listed.designated _ hread).ne_nil,
        lead_append (Or.inr hstop), lead_of_letters h.all_letters]
    exact hplaced.listed.goesOn hplaced.mem h.all_letters hne hc hdpak hread hlead
      (whole_of_at? hm).2
  obtain ⟨m, hm⟩ := hplaced.listed.exists_at? hplaced.unconditional h.glued (hstart _)
  obtain ⟨m', hm'⟩ := hplaced.listed.exists_at? hplaced.unconditional h.hyphened (hstart _)
  refine ⟨m, m', hm, hm', ?_, ?_⟩
  · obtain ⟨d', more, -, -, ⟨rfl, heq⟩ | ⟨rfl, -⟩⟩ := htext (nonLetter_of_isDigit hd) hm
    · exact ⟨more, heq⟩
    · exact absurd hd (by decide)
  · obtain ⟨d', more, hd', -, ⟨rfl, -⟩ | ⟨-, heq⟩⟩ := htext (by decide) hm'
    · exact absurd hd' (by decide)
    · exact ⟨d', more, hd', heq⟩

/-- Only the letters of three families make the two spellings one. -/
theorem FoundTwice.canonical_eq_iff (h : FoundTwice p letters d rest m m')
    (hletters : letters.any nonLetter = false) (hd : isDigit d = true) (hname : IsLetters name)
    (hclass : letters.map caseClass = name.toList.map caseClass)
    (hskips : name ∈ hyphenated → SkipsHyphen name p) :
    canonical m.text = canonical m'.text ↔ name ∈ hyphenated := by
  constructor
  · intro hsame
    by_contra hother
    obtain ⟨more, htext⟩ := h.text_glued
    obtain ⟨d', more', hd', htext'⟩ := h.text_hyphened
    have hnone : ∀ other ∈ hyphenated,
        ¬ other.toList.map caseClass <:+ letters.map caseClass := by
      intro other hmem hsuffix
      rw [hclass] at hsuffix
      exact hother (hname.hyphenated other hmem hsuffix ▸ hmem)
    obtain ⟨tail, hglued⟩ := canonical_append_digit hletters hnone hd more
    obtain ⟨tail', hhyphened⟩ := canonical_append_hyphen hletters hd' more'
    rw [htext, htext', hglued, hhyphened, List.append_cancel_left_eq] at hsame
    exact ne_hyphen_of_isDigit hd (List.cons.inj hsame).1
  · intro hmem
    obtain ⟨behind, htext, htext'⟩ := (hskips hmem).text_at? hclass hd h.glued h.hyphened
    obtain ⟨more, hmore⟩ := h.text_glued
    obtain rfl : behind = d :: more := List.append_cancel_left (htext.symm.trans hmore)
    rw [htext, htext']
    exact canonical_respelled ⟨name, hmem, hclass⟩ hd more

theorem FoundTwice.lead_canonical (h : FoundTwice p letters d rest m m')
    (hletters : letters.any nonLetter = false) (hd : isDigit d = true) :
    lead (canonical m.text) = letters.map caseClass ∧
      lead (canonical m'.text) = letters.map caseClass := by
  have hlead {c : Char} (hc : nonLetter c = true) (hupper : upperChar c = [c]) (more : List Char) :
      lead (canonical (letters ++ c :: more)) = letters.map caseClass := by
    have hstop : (c :: more).head?.all nonLetter = true := hc
    rw [lead_canonical_append_cons hletters hc hupper, lead_append (Or.inr hstop),
      lead_of_letters hletters]
  obtain ⟨more, htext⟩ := h.text_glued
  obtain ⟨d', more', -, htext'⟩ := h.text_hyphened
  rw [htext, htext']
  exact ⟨hlead (nonLetter_of_isDigit hd) (upperChar_of_isDigit hd) more,
    hlead (by decide) (by decide) (d' :: more')⟩

/-- No earlier family says a package with the letters of this one. -/
theorem Placed.lead_ne (h : Placed earlier p names) (hmem : name ∈ names) {cs : List Char}
    {package : String} (hpackage : packageIn earlier cs = some package) :
    lead package.toList ≠ name.toList.map caseClass := by
  have hname := isLetters_of_mem h.mem hmem
  obtain ⟨entry, hentry, m, hm, rfl⟩ := exists_of_packageIn h.designators hpackage
  obtain ⟨-, others, hothers, hlisted, hapart⟩ := h.others entry hentry
  have hdesignated := hlisted.designated m.text (starts_of_find? hm).1
  rw [String.toList_ofList, lead_canonical_of_designated hothers hdesignated]
  rcases lead_of_designated hothers hdesignated with ⟨-, hnil⟩ | hdpak | ⟨other, hother, hsame⟩
  · rw [hnil]
    exact fun hname' => hname.ne_nil (List.map_eq_nil_iff.mp hname'.symm)
  · rw [hdpak]
    exact hname.ne_dpak.symm
  · rw [hsame]
    exact hapart other hother name hmem

theorem Placed.packageIn_eq (h : Placed earlier p names) (hmem : name ∈ names)
    (hhyphenated : name ∈ hyphenated) (hletters : letters.any nonLetter = false)
    (hclass : letters.map caseClass = name.toList.map caseClass) (hd : isDigit d = true)
    (hnumber : HasNumber (isShort names) (d :: rest)) :
    packageIn earlier (letters ++ d :: rest) = packageIn earlier (letters ++ '-' :: d :: rest) := by
  have hshort : isShort names = true :=
    List.any_eq_true.mpr ⟨name, hmem, List.contains_iff_mem.mpr hhyphenated⟩
  refine packageIn_congr h.designators fun entry hentry => ?_
  obtain ⟨hfree, others, hothers, hlisted, hapart⟩ := h.others entry hentry
  exact hlisted.text_find? hothers hfree hletters (isLetters_of_mem h.mem hmem) hclass
    (fun other hother => hapart other hother name hmem) hd (hnumber.2 hshort)

end Spellings

/-- The two spellings of a designator are the same package for the families whose hyphen the
catalog always writes. For the others they are only if a family that is tried earlier takes the
same package out of both. -/
theorem packages_eq_iff {earlier later : List (Pattern × Meaning)} {entry : Pattern × Meaning}
    {letters behind : List Char} (hfamilies : families = earlier ++ entry :: later)
    (hmeaning : entry.2 ≠ .receptacle) (h : Respelled entry.1 letters behind) :
    ∃ glued hyphened,
      (extract (String.ofList (letters ++ behind))).1.package = some glued ∧
      (extract (String.ofList (letters ++ '-' :: behind))).1.package = some hyphened ∧
      (glued = hyphened ↔
        (∃ name ∈ hyphenated, letters.map caseClass = name.toList.map caseClass) ∨
          ∃ package, packageIn earlier (letters ++ behind) = some package ∧
            packageIn earlier (letters ++ '-' :: behind) = some package) := by
  obtain ⟨names, hplaced, hdesignator⟩ :=
    exists_placed hfamilies (h.length_lt hfamilies hmeaning)
  obtain ⟨name, hmem, hclass, d, rest, rfl, hd, hnumber⟩ := h.exists_number hplaced
  have hname := isLetters_of_mem hplaced.mem hmem
  obtain ⟨m, m', hfound⟩ := h.exists_foundTwice hplaced hname hclass hd
  have hpackage {cs : List Char} {m : Found} (hm : (wordOf entry.1).at? [] cs = some m) :
      (extract (String.ofList cs)).1.package =
        (packageIn earlier cs).or (some (String.ofList (canonical m.text))) := by
    obtain ⟨p, meaning⟩ := entry
    obtain rfl : meaning = .designator := hdesignator
    rw [package_extract, hfamilies, packageIn_append hplaced.designators, packageIn_cons,
      find?_eq_of_at? hm, Option.map_some, Option.some_or]
  have hiff : (∃ name ∈ hyphenated, letters.map caseClass = name.toList.map caseClass) ↔
      name ∈ hyphenated := by
    constructor
    · rintro ⟨other, hother, hsame⟩
      have hsuffix : other.toList.map caseClass <:+ name.toList.map caseClass := by
        rw [← hclass, hsame]
      exact hname.hyphenated other hother hsuffix ▸ hother
    · exact fun hhyphenated => ⟨name, hhyphenated, hclass⟩
  have hsame (hhyphenated : name ∈ hyphenated) :=
    hplaced.packageIn_eq hmem hhyphenated h.all_letters hclass hd hnumber
  have hown {cs text : List Char} (hlead : lead (canonical text) = letters.map caseClass) :
      packageIn earlier cs ≠ some (String.ofList (canonical text)) := by
    intro hearlier
    refine hplaced.lead_ne hmem hearlier ?_
    rw [String.toList_ofList, hlead, hclass]
  have hcanonical := hfound.canonical_eq_iff h.all_letters hd hname hclass
    (hplaced.listed.skips name · hmem)
  obtain ⟨hlead, hlead'⟩ := hfound.lead_canonical h.all_letters hd
  obtain ⟨glued, hyphened, hglued, hhyphened, hsays⟩ := exists_or_some (hown hlead) (hown hlead')
  rw [hpackage hfound.glued, hpackage hfound.hyphened, hiff]
  refine ⟨glued, hyphened, hglued, hhyphened, hsays.trans ?_⟩
  rw [String.ofList_inj, hcanonical]
  constructor
  · rintro (⟨-, -, hhyphenated⟩ | htaken)
    · exact Or.inl hhyphenated
    · exact Or.inr htaken
  · rintro (hhyphenated | htaken)
    · rw [hsame hhyphenated]
      cases packageIn earlier (letters ++ '-' :: d :: rest) with
      | none => exact Or.inl ⟨rfl, rfl, hhyphenated⟩
      | some package => exact Or.inr ⟨package, rfl, rfl⟩
    · exact Or.inr htaken

theorem reads_of_find? {p : Pattern} {cs : List Char}
    (h : ((wordOf p).find? cs).any (·.text = cs) = true) : p.Reads cs := by
  rw [Option.any_eq_true] at h
  obtain ⟨m, hm, htext⟩ := h
  rw [← of_decide_eq_true htext]
  exact (starts_of_find? hm).1

/-- The catalog hyphenates the letters, and the variant behind the number is no matter. -/
theorem packages_eq_iff_sot23 : Respelled (families[3]).1 "sot".toList "23-5".toList ∧
    ∃ glued hyphened, (extract "sot23-5").1.package = some glued ∧
      (extract "sot-23-5").1.package = some hyphened ∧ glued = hyphened := by
  have hrespelled : Respelled (families[3]).1 "sot".toList "23-5".toList :=
    ⟨by decide, reads_of_find? (by decide +kernel), reads_of_find? (by decide +kernel)⟩
  have hfamilies : families = families.take 3 ++ families[3] :: families.drop 4 := rfl
  obtain ⟨glued, hyphened, hglued, hhyphened, hiff⟩ :=
    packages_eq_iff hfamilies (by decide) hrespelled
  exact ⟨hrespelled, glued, hyphened, hglued, hhyphened,
    hiff.mpr (Or.inl ⟨"SOT", by decide, by decide +kernel⟩)⟩

/-- Both spellings are read by one family, and each is left as it was. -/
theorem packages_differ_qfn32 :
    (∃ entry ∈ families, entry.2 ≠ .receptacle ∧ Respelled entry.1 "QFN".toList "32".toList) ∧
      (extract "QFN32").1.package ≠ (extract "QFN-32").1.package := by
  have hrespelled : Respelled (families[7]).1 "QFN".toList "32".toList :=
    ⟨by decide, reads_of_find? (by decide +kernel), reads_of_find? (by decide +kernel)⟩
  exact ⟨⟨families[7], List.getElem_mem _, by decide, hrespelled⟩, by decide +kernel⟩

end PartSearch.PackageHit
