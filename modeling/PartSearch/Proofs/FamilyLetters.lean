import PartSearch.Proofs.CanonicalPackages
import PartSearch.Proofs.DesignatorAnatomy

/-!
# The letters of the families of designators

Each family of designators has letters of its own, and behind them, perhaps after a hyphen, it
starts with a digit. So no two families read texts that start with the same letters. `Listed` says
what a family reads, `listed_families` that all families with a hyphen to leave out are listed, and
the families whose hyphen the catalog always writes stop behind the same texts with and without it.
-/

namespace PartSearch

namespace Text

/-! ### Digits and last characters -/

section Classes

variable {c d : Char} {cs ds : List Char}

theorem caseClass_of_isDigit (h : isDigit c = true) : caseClass c = c := by
  have hsign : c ∉ signs := by
    intro hmem
    rw [(sign_beyond_ascii hmem).2.2.2] at h
    cases h
  have halpha := isAlpha_caseClass_of_isDigit h
  rw [caseClass_eq_toLower hsign] at halpha ⊢
  exact (toLower_eq_iff halpha).mp rfl ▸ rfl

theorem isDigit_of_caseClass_eq (h : caseClass c = caseClass d) (hc : isDigit c = true) :
    isDigit d = true := by
  rw [caseClass_of_isDigit hc] at h
  by_cases hsign : d ∈ signs
  · have htable : (signs.all fun d => !isDigit (caseClass d)) = true := by decide +kernel
    have hdigit := List.all_eq_true.mp htable d hsign
    rw [← h, hc] at hdigit
    cases hdigit
  · have halpha : c.isAlpha = false := by
      rw [← caseClass_of_isDigit hc, isAlpha_caseClass_of_isDigit hc]
    rw [caseClass_eq_toLower hsign, eq_comm, toLower_eq_iff halpha] at h
    rwa [h]

theorem map_isDigit_of_map_eq (h : cs.map caseClass = ds.map caseClass) :
    cs.map isDigit = ds.map isDigit := by
  induction cs generalizing ds with
  | nil =>
      cases ds with
      | nil => rfl
      | cons d ds => cases h
  | cons c cs ih =>
      cases ds with
      | nil => cases h
      | cons d ds =>
          obtain ⟨hclass, hrest⟩ := List.cons.inj h
          rw [List.map_cons, List.map_cons, ih hrest]
          congr 1
          exact Bool.eq_iff_iff.mpr
            ⟨isDigit_of_caseClass_eq hclass, isDigit_of_caseClass_eq hclass.symm⟩

def leadingDigits (cs : List Char) : Nat := (cs.takeWhile isDigit).length

theorem leadingDigits_of_map_eq (h : cs.map caseClass = ds.map caseClass) :
    leadingDigits cs = leadingDigits ds := by
  have hmap (es : List Char) : leadingDigits es = ((es.map isDigit).takeWhile id).length := by
    rw [leadingDigits, List.takeWhile_map, List.length_map]
    rfl
  rw [hmap, hmap, map_isDigit_of_map_eq h]

theorem leadingDigits_pos : 0 < leadingDigits cs ↔ cs.head?.any isDigit = true := by
  cases cs with
  | nil => simp [leadingDigits]
  | cons c cs => by_cases hc : isDigit c = true <;> simp [leadingDigits, hc]

theorem leadingDigits_append_le (h : ds.head?.any isDigit = false) :
    leadingDigits (cs ++ ds) = leadingDigits cs := by
  induction cs with
  | nil =>
      cases ds with
      | nil => rfl
      | cons d ds =>
          have hd : isDigit d = false := h
          simp [leadingDigits, hd]
  | cons c cs ih =>
      by_cases hc : isDigit c = true
      · simpa [leadingDigits, hc] using ih
      · simp [leadingDigits, hc]

theorem le_leadingDigits_append : leadingDigits cs ≤ leadingDigits (cs ++ ds) := by
  induction cs with
  | nil => exact Nat.zero_le _
  | cons c cs ih =>
      by_cases hc : isDigit c = true
      · simpa [leadingDigits, hc] using ih
      · simp [leadingDigits, hc]

theorem head?_nonLetter (h : cs.head?.any isDigit = true) : cs.head?.any nonLetter = true := by
  rw [Option.any_eq_true] at h ⊢
  obtain ⟨d, hd, hdigit⟩ := h
  exact ⟨d, hd, nonLetter_of_isDigit hdigit⟩

def WordEnded (cs : List Char) : Prop := cs.getLast?.any isWordChar = true

theorem WordEnded.ne_nil (h : WordEnded cs) : cs ≠ [] := by
  rintro rfl
  cases h

theorem WordEnded.append (h : WordEnded ds) : WordEnded (cs ++ ds) := by
  rwa [WordEnded, List.getLast?_append_of_ne_nil _ h.ne_nil]

theorem wordEnded_of_map_eq (h : cs.map caseClass = ds.map caseClass)
    (hds : (ds.map caseClass).getLast?.any Char.isAlphanum = true) : WordEnded cs := by
  rw [← h, List.getLast?_map] at hds
  cases hlast : cs.getLast? with
  | none =>
      rw [hlast] at hds
      cases hds
  | some c =>
      rw [hlast] at hds
      rw [WordEnded, hlast]
      exact isWordChar_of_isAlphanum_caseClass hds

end Classes

end Text

namespace PackageHit

open Text Text.Pattern

/-! ### With and without the hyphen -/

/-- Behind the letters of a name the pattern stops at the same places with and without a hyphen. -/
def SkipsHyphen (name : String) (p : Pattern) : Prop :=
  ∀ letters d rest, letters.map caseClass = name.toList.map caseClass → isDigit d = true →
    ∃ stops : List Place, (∀ q ∈ stops, q.before ≠ []) ∧
      p.ends ⟨[], letters ++ d :: rest, []⟩ = stops.map (Place.behind letters.reverse) ∧
      p.ends ⟨[], letters ++ '-' :: d :: rest, []⟩ =
        stops.map (Place.behind ('-' :: letters.reverse))

section SkipsHyphen

variable {p q : Pattern} {name : String}

theorem SkipsHyphen.append (h : SkipsHyphen name p) (hq : q.unconditional = true) :
    SkipsHyphen name (p ++ q) := by
  intro letters d rest hclass hd
  obtain ⟨stops, hne, hglued, hhyphen⟩ := h letters d rest hclass hd
  have hends (x : List Char) : (stops.map (Place.behind x)).flatMap q.ends =
      (stops.flatMap q.ends).map (Place.behind x) := by
    rw [List.flatMap_map, List.map_flatMap]
    exact congrArg (List.flatMap · stops)
      (funext fun _ => ends_behind (startless_of_unconditional hq) (Or.inl hq))
  refine ⟨stops.flatMap q.ends, ?_, ?_, ?_⟩
  · intro b hb
    obtain ⟨a, ha, hb⟩ := List.mem_flatMap.mp hb
    exact before_ne_nil (hne a ha) hb
  · exact (congrArg (List.flatMap q.ends) hglued).trans (hends _)
  · exact (congrArg (List.flatMap q.ends) hhyphen).trans (hends _)

theorem skipsHyphen_anyOf {ps : List Pattern} (h : ∀ p ∈ ps, SkipsHyphen name p) :
    SkipsHyphen name (anyOf ps) := by
  induction ps with
  | nil =>
      intro letters d rest _ _
      have hnone (before after : List Char) (captures : List Capture) :
          never.ends ⟨before, after, captures⟩ = [] := by cases after <;> rfl
      exact ⟨[], by simp, hnone _ _ _, hnone _ _ _⟩
  | cons p ps ih =>
      obtain ⟨hp, hps⟩ := List.forall_mem_cons.mp h
      cases ps with
      | nil => exact hp
      | cons q ps =>
          intro letters d rest hclass hd
          obtain ⟨stops, hne, hglued, hhyphen⟩ := hp letters d rest hclass hd
          obtain ⟨stops', hne', hglued', hhyphen'⟩ := ih hps letters d rest hclass hd
          refine ⟨stops ++ stops', ?_, ?_, ?_⟩
          · exact fun b hb => (List.mem_append.mp hb).elim (hne b) (hne' b)
          · rw [List.map_append, ← hglued, ← hglued']
            rfl
          · rw [List.map_append, ← hhyphen, ← hhyphen']
            rfl

theorem ends_caseless {letters : List Char}
    (h : letters.map caseClass = name.toList.map caseClass) (before rest : List Char)
    (captures : List Capture) : (caseless name).ends ⟨before, letters ++ rest, captures⟩ =
      [⟨letters.reverse ++ before, rest, captures⟩] := by
  unfold caseless
  generalize name.toList = cs at h
  induction cs generalizing letters before with
  | nil =>
      obtain rfl := List.map_eq_nil_iff.mp h
      rfl
  | cons c cs ih =>
      cases letters with
      | nil => cases h
      | cons d letters =>
          obtain ⟨hclass, hrest⟩ := List.cons.inj h
          change ((one _).ends _).flatMap _ = _
          rw [List.cons_append, ends]
          dsimp only
          rw [if_pos (beq_iff_eq.mpr hclass), List.flatMap_singleton]
          simpa using ih (d :: before) hrest

theorem skipsHyphen_family (hq : q.unconditional = true) (hsign : q.mayStart '-' = false)
    (hread : ReadsOnly q (· ≠ [])) : SkipsHyphen name (family name ++ q) := by
  intro letters d rest hclass hd
  have hbehind (before : List Char) : q.ends ⟨before, d :: rest, []⟩ =
      (q.ends ⟨[], d :: rest, []⟩).map (Place.behind before) :=
    @ends_behind q before ⟨[], d :: rest, []⟩ (startless_of_unconditional hq) (Or.inl hq)
  have hends (after : List Char) : (family name ++ q).ends ⟨[], letters ++ after, []⟩ =
      ((maybe (charOf "-")).ends ⟨letters.reverse, after, []⟩).flatMap q.ends := by
    change (((caseless name).ends _).flatMap (maybe (charOf "-")).ends).flatMap q.ends = _
    rw [ends_caseless hclass, List.flatMap_singleton, List.append_nil]
  have hdigit : (charOf "-").ends ⟨letters.reverse, d :: rest, []⟩ = [] := by
    have hne : d ≠ '-' := ne_hyphen_of_isDigit hd
    refine ends_one_eq_nil ?_ _ _
    simpa using hne
  refine ⟨q.ends ⟨[], d :: rest, []⟩, ?_, ?_, ?_⟩
  · intro b hb
    obtain ⟨read, hq, hadvances⟩ := (ends_passes hb).reads
    rw [hadvances.before, List.append_nil]
    exact List.reverse_ne_nil_iff.mpr (hread read hq)
  · rw [hends, maybe, ends, hdigit]
    exact (List.flatMap_singleton ..).trans (hbehind _)
  · have hnone := @ends_eq_nil q '-' hsign letters.reverse (d :: rest) []
    have hhyphen : (maybe (charOf "-")).ends ⟨letters.reverse, '-' :: d :: rest, []⟩ =
        [⟨'-' :: letters.reverse, d :: rest, []⟩, ⟨letters.reverse, '-' :: d :: rest, []⟩] := rfl
    rw [hends, hhyphen, List.flatMap_cons, List.flatMap_singleton, hnone, List.append_nil, hbehind]

/-- A pattern that cannot start with the first letter of the name stops nowhere. -/
theorem skipsHyphen_of_mayStart {first : Char} {more : List Char}
    (hname : name.toList = first :: more)
    (h : ∀ c, caseClass c = caseClass first → p.mayStart c = false) : SkipsHyphen name p := by
  intro letters d rest hclass _
  rw [hname] at hclass
  cases letters with
  | nil => cases hclass
  | cons c letters =>
      have hc := h c (List.cons.inj hclass).1
      exact ⟨[], by simp, ends_eq_nil hc _ _ _, ends_eq_nil hc _ _ _⟩

end SkipsHyphen

/-! ### Families with letters -/

/-- A text that starts with a digit, and with at most three of them if it is short. -/
def HasNumber (short : Bool) (cs : List Char) : Prop :=
  cs.head?.any isDigit = true ∧ (short = true → leadingDigits cs ≤ 3)

/-- What stands behind the letters of a family. -/
structure IsCode (short : Bool) (q : Pattern) : Prop where
  number : ReadsOnly q (HasNumber short)
  ended : ReadsOnly q WordEnded
  unconditional : q.unconditional = true
  unsigned : q.mayStart '-' = false

/-- What may be added at the end. -/
structure IsSuffix (short : Bool) (q : Pattern) : Prop where
  ended : ReadsOnly q WordEnded
  other : short = true → ReadsOnly q fun cs => cs.head?.any isDigit = false
  unconditional : q.unconditional = true

/-- The pattern reads letters of some names, perhaps a hyphen, and a number with its additions. -/
structure Named (short : Bool) (names : List String) (p : Pattern) : Prop where
  anatomy : ReadsOnly p (Anatomy names (HasNumber short))
  ended : ReadsOnly p WordEnded
  skips : short = true → ∀ name ∈ hyphenated, name ∈ names → SkipsHyphen name p

section Named

variable {short : Bool} {names : List String} {name : String} {p q : Pattern}

theorem wordEnded_digits : ReadsOnly digits WordEnded := by
  intro read hread
  have hdigits := isDigit_of_reads_digits hread
  have hne : read ≠ [] := by
    rintro rfl
    cases (isNumber_digits [] hread).starts
  rw [WordEnded, List.getLast?_eq_some_getLast hne]
  exact isWordChar_of_isDigit (hdigits _ (List.getLast_mem hne))

theorem isCode_digits : IsCode false digits where
  number := by
    intro read hread
    obtain ⟨a, b, ha, -, rfl⟩ := reads_append_iff.mp hread
    obtain ⟨c, hc, rfl⟩ := reads_one_iff.mp ha
    exact ⟨hc, fun h => absurd h Bool.false_ne_true⟩
  ended := wordEnded_digits
  unconditional := rfl
  unsigned := by decide

/-- The texts start with at most three digits, and end with a letter or digit. -/
def areCodes (texts : List String) : Bool :=
  texts.all fun text => 0 < leadingDigits text.toList && leadingDigits text.toList ≤ 3 &&
    (text.toList.map caseClass).getLast?.any Char.isAlphanum

theorem hasNumber_of_map_eq {text : String} {read : List Char}
    (h : 0 < leadingDigits text.toList ∧ leadingDigits text.toList ≤ 3)
    (hread : read.map caseClass = text.toList.map caseClass) : HasNumber short read := by
  rw [← leadingDigits_of_map_eq hread, leadingDigits_pos] at h
  exact ⟨h.1, fun _ => h.2⟩

theorem isCode_oneOf {texts : List String} (h : areCodes texts = true)
    (hfree : (oneOf texts).unconditional = true) (hsign : (oneOf texts).mayStart '-' = false) :
    IsCode short (oneOf texts) := by
  have hcode {read : List Char} (hread : (oneOf texts).Reads read) :
      HasNumber short read ∧ WordEnded read := by
    obtain ⟨text, htext, hclass⟩ := reads_oneOf_iff.mp hread
    have hall := List.all_eq_true.mp h text htext
    simp only [Bool.and_eq_true, decide_eq_true_eq] at hall
    exact ⟨hasNumber_of_map_eq hall.1 hclass, wordEnded_of_map_eq hclass hall.2⟩
  exact ⟨fun _ hread => (hcode hread).1, fun _ hread => (hcode hread).2, hfree, hsign⟩

theorem isCode_exact {text : String} (h : areCodes [text] = true)
    (hfree : (exact text).unconditional = true) (hsign : (exact text).mayStart '-' = false) :
    IsCode short (exact text) := by
  have hall := List.all_eq_true.mp h text (List.mem_singleton_self text)
  simp only [Bool.and_eq_true, decide_eq_true_eq] at hall
  refine ⟨fun read hread => ?_, fun read hread => ?_, hfree, hsign⟩
  · rw [reads_exact_iff.mp hread]
    exact hasNumber_of_map_eq hall.1 rfl
  · rw [reads_exact_iff.mp hread]
    exact wordEnded_of_map_eq rfl hall.2

theorem isSuffix_oneOf {texts : List String}
    (h : ∀ text ∈ texts, leadingDigits text.toList = 0 ∧
      (text.toList.map caseClass).getLast?.any Char.isAlphanum = true)
    (hfree : (oneOf texts).unconditional = true) : IsSuffix short (oneOf texts) where
  ended := by
    intro read hread
    obtain ⟨text, htext, hclass⟩ := reads_oneOf_iff.mp hread
    exact wordEnded_of_map_eq hclass (h text htext).2
  other := by
    intro _ read hread
    obtain ⟨text, htext, hclass⟩ := reads_oneOf_iff.mp hread
    rw [← Bool.not_eq_true, ← leadingDigits_pos, leadingDigits_of_map_eq hclass, (h text htext).1]
    exact Nat.lt_irrefl 0
  unconditional := hfree

theorem isSuffix_variant : IsSuffix short (charOf "-" ++ digits) where
  ended := by
    intro read hread
    obtain ⟨a, b, -, hb, rfl⟩ := reads_append_iff.mp hread
    exact (wordEnded_digits b hb).append
  other := by
    intro _ read hread
    obtain ⟨a, b, ha, -, rfl⟩ := reads_append_iff.mp hread
    obtain ⟨c, hc, rfl⟩ := reads_one_iff.mp ha
    obtain rfl : c = '-' := by simpa using hc
    rfl
  unconditional := rfl

theorem head?_any_append {cls : Char → Bool} {cs : List Char} (h : cs.head?.any cls = true)
    (ds : List Char) : (cs ++ ds).head?.any cls = true := by
  cases cs with
  | nil => cases h
  | cons c cs => exact h

theorem named_family (hname : name ∈ names) (hq : IsCode short q)
    (honly : short = true → ∀ other ∈ hyphenated, other ∈ names → other = name) :
    Named short names (family name ++ q) where
  anatomy := anatomy_family_of hname
    (fun read hread => head?_nonLetter (hq.number read hread).1) hq.number
  ended := by
    intro read hread
    obtain ⟨front, behind, -, hbehind, rfl⟩ := reads_append_iff.mp hread
    exact (hq.ended behind hbehind).append
  skips := by
    intro hshort other hother hmem
    rw [honly hshort other hother hmem]
    exact skipsHyphen_family hq.unconditional hq.unsigned fun read hread =>
      (hq.ended read hread).ne_nil

theorem named_pinned {leads : List String} (h : ∀ lead ∈ "" :: leads, lead ++ name ∈ names) :
    Named false names (pinned leads name) where
  anatomy := anatomy_pinned_of h isCode_digits.number
  ended := by
    intro read hread
    obtain ⟨front, behind, -, hbehind, rfl⟩ := reads_append_iff.mp hread
    exact (wordEnded_digits behind hbehind).append
  skips := fun h => absurd h Bool.false_ne_true

theorem Named.maybe (h : Named short names p) (hq : IsSuffix short q) :
    Named short names (p ++ maybe q) where
  anatomy := by
    refine h.anatomy.append fun behind read hnumber hread => ?_
    refine ⟨head?_any_append hnumber.1 read, fun hshort => ?_⟩
    rw [leadingDigits_append_le]
    · exact hnumber.2 hshort
    · rcases reads_maybe_iff.mp hread with hread | rfl
      · exact hq.other hshort read hread
      · rfl
  ended := by
    intro read hread
    obtain ⟨a, b, ha, hb, rfl⟩ := reads_append_iff.mp hread
    rcases reads_maybe_iff.mp hb with hb | rfl
    · exact (hq.ended b hb).append
    · rw [List.append_nil]
      exact h.ended a ha
  skips := by
    have hmaybe : (Pattern.maybe q).unconditional = true :=
      Bool.and_eq_true_iff.mpr ⟨hq.unconditional, rfl⟩
    exact fun hshort name hname hmem => (h.skips hshort name hname hmem).append hmaybe

end Named

/-! ### The list of the families -/

/-- Are there letters whose hyphen the catalog always writes? -/
def isShort (names : List String) : Bool := names.any hyphenated.contains

/-- A text with letters of some names, or one that starts with a long number, or DPAK. -/
def Designated (names : List String) (cs : List Char) : Prop :=
  Anatomy names (HasNumber (isShort names)) cs ∨ 4 ≤ leadingDigits cs ∨
    cs.map caseClass = ['d', 'p', 'a', 'k']

/-- The front of a text is read as well, and an edge can lie behind it. -/
def Settles (p : Pattern) (cs : List Char) : Prop :=
  ∃ front back, cs = front ++ back ∧ p.Reads front ∧ WordEnded front ∧
    back.head?.any isWordChar = false

structure Listed (names : List String) (p : Pattern) : Prop where
  designated : ReadsOnly p (Designated names)
  settles : ReadsOnly p (Settles p)
  skips : ∀ name ∈ hyphenated, name ∈ names → SkipsHyphen name p

/-- The letters of the families, with all their leads. Sizes have none, and the families behind
these have no hyphen to leave out. -/
def familyLetters : List (List String) := [
  [], [], [], ["SOT"], ["SOD"], ["DO"], ["TO", "D"],
  ["QFN", "VQFN", "DFN", "WQFN", "TQFN", "UQFN"], ["QFP", "LQFP", "TQFP", "HQFP", "PQQFP"],
  ["BGA", "FCBGA", "WBGA", "TBGA", "MBGA", "UBGA", "PBGA", "FBGA"],
  ["CSP", "WLCSP", "LFCSP", "UCSP", "FCCSP", "VCSP"],
  ["DIP", "PDIP", "SDIP", "SKDIP", "CDIP", "SIP"],
  ["TSSOP", "SSOP", "MSOP", "QSOP", "HTSSOP", "VSSOP"], ["SOP", "SOIC"], ["SO"], ["SMD", "LGA"]]

section Listed

variable {short : Bool} {names : List String} {p : Pattern}

theorem head?_bodySize {cls : Char → Bool} (h : cls '(' = false) :
    ReadsOnly bodySize fun cs => cs.head?.any cls = false := by
  refine ReadsOnly.maybe (fun read hread => ?_) rfl
  obtain ⟨inner, close, hinner, -, rfl⟩ := reads_append_iff.mp hread
  obtain ⟨opening, body, hopening, -, rfl⟩ := reads_append_iff.mp hinner
  obtain ⟨c, hc, rfl⟩ := reads_one_iff.mp hopening
  obtain rfl : c = '(' := by simpa using hc
  exact h

theorem settles_self {read : List Char} (hread : p.Reads read) (hended : WordEnded read) :
    Settles p read := ⟨read, [], (List.append_nil read).symm, hread, hended, rfl⟩

theorem Named.listed (h : Named short names p) (hshort : isShort names = short) :
    Listed names p where
  designated := by
    subst hshort
    exact fun read hread => Or.inl (h.anatomy read hread)
  settles := fun read hread => settles_self hread (h.ended read hread)
  skips := by
    intro name hname hmem
    refine h.skips (hshort ▸ List.any_eq_true.mpr ⟨name, hmem, ?_⟩) name hname hmem
    exact List.contains_iff_mem.mpr hname

theorem Named.body (h : Named short names p) (hshort : isShort names = short) :
    Listed names (p ++ bodySize) where
  designated := by
    subst hshort
    refine fun read hread => Or.inl ?_
    refine (h.anatomy.append fun behind body hnumber hbody => ?_) read hread
    have hother : body.head?.any isDigit = false :=
      head?_bodySize (by decide) body hbody
    refine ⟨head?_any_append hnumber.1 body, fun hshort => ?_⟩
    rw [leadingDigits_append_le hother]
    exact hnumber.2 hshort
  settles := by
    intro read hread
    obtain ⟨front, body, hfront, hbody, rfl⟩ := reads_append_iff.mp hread
    have hnone : bodySize.Reads [] := .second .nothing
    have hself : (p ++ bodySize).Reads front := by
      have hboth := Reads.seq hfront hnone
      rwa [List.append_nil] at hboth
    exact ⟨front, body, rfl, hself, h.ended front hfront, head?_bodySize (by decide) body hbody⟩
  skips := fun name hname hmem => ((h.listed hshort).skips name hname hmem).append rfl

theorem listed_anyOf {ps : List Pattern} (h : ∀ p ∈ ps, Listed names p) :
    Listed names (anyOf ps) where
  designated := readsOnly_anyOf fun p hp => (h p hp).designated
  settles := by
    intro read hread
    obtain ⟨p, hp, hread⟩ := reads_anyOf_iff.mp hread
    obtain ⟨front, back, hwhole, hfront, hended⟩ := (h p hp).settles read hread
    exact ⟨front, back, hwhole, reads_anyOf_iff.mpr ⟨p, hp, hfront⟩, hended⟩
  skips := fun name hname hmem => skipsHyphen_anyOf fun p hp => (h p hp).skips name hname hmem

theorem listed_sizes {texts : List String}
    (hread : ∀ read, p.Reads read → ∃ text ∈ texts, read.map caseClass = text.toList.map caseClass)
    (h : ∀ text ∈ texts, 4 ≤ leadingDigits text.toList ∧
      (text.toList.map caseClass).getLast?.any Char.isAlphanum = true) : Listed [] p where
  designated := by
    intro read hsize
    obtain ⟨text, htext, hclass⟩ := hread read hsize
    refine Or.inr (Or.inl ?_)
    rw [leadingDigits_of_map_eq hclass]
    exact (h text htext).1
  settles := by
    intro read hsize
    obtain ⟨text, htext, hclass⟩ := hread read hsize
    exact settles_self hsize (wordEnded_of_map_eq hclass (h text htext).2)
  skips := fun _ _ hmem => absurd hmem List.not_mem_nil

theorem listed_exact {texts : List String}
    (h : ∀ text ∈ texts, 4 ≤ leadingDigits text.toList ∧
      (text.toList.map caseClass).getLast?.any Char.isAlphanum = true) :
    Listed [] (anyOf (texts.map exact)) := by
  refine listed_sizes (fun read hread => ?_) h
  obtain ⟨p, hp, hread⟩ := reads_anyOf_iff.mp hread
  obtain ⟨text, htext, rfl⟩ := List.mem_map.mp hp
  exact ⟨text, htext, by rw [reads_exact_iff.mp hread]⟩

/-- The names in full that stand beside the family of TO. -/
theorem listed_dpak : Listed ["TO", "D"] (oneOf ["DPAK", "D2PAK", "D3PAK"]) where
  designated := by
    intro read hread
    have hnumbered {text : String} (hcode : 0 < leadingDigits text.toList ∧
        leadingDigits text.toList ≤ 3)
        (hclass : read.map caseClass = 'd' :: text.toList.map caseClass) :
        Designated ["TO", "D"] read := by
      obtain ⟨c, behind, rfl, hc, hbehind⟩ := List.map_eq_cons_iff.mp hclass
      have hnumber : HasNumber (isShort ["TO", "D"]) behind := hasNumber_of_map_eq hcode hbehind
      have hletter : [c].map caseClass = "D".toList.map caseClass := congrArg (fun c => [c]) hc
      exact Or.inl ⟨"D", by simp, [c], [], behind, rfl, hletter, Or.inl rfl,
        head?_nonLetter hnumber.1, hnumber⟩
    obtain ⟨text, htext, hclass⟩ := reads_oneOf_iff.mp hread
    simp only [List.mem_cons, List.not_mem_nil, or_false] at htext
    rcases htext with rfl | rfl | rfl
    · exact Or.inr (Or.inr hclass)
    · exact @hnumbered "2PAK" (by decide +kernel) hclass
    · exact @hnumbered "3PAK" (by decide +kernel) hclass
  settles := by
    have hended : ∀ text ∈ ["DPAK", "D2PAK", "D3PAK"],
        (text.toList.map caseClass).getLast?.any Char.isAlphanum = true := by decide +kernel
    intro read hread
    obtain ⟨text, htext, hclass⟩ := reads_oneOf_iff.mp hread
    exact settles_self hread (wordEnded_of_map_eq hclass (hended text htext))
  skips := by
    intro name hname hmem
    have honly : ∀ name ∈ hyphenated, name ∈ ["TO", "D"] → name = "TO" := by decide
    obtain rfl := honly name hname hmem
    refine @skipsHyphen_of_mayStart _ "TO" 'T' ['O'] rfl fun c hc => ?_
    have hstart : (oneOf ["DPAK", "D2PAK", "D3PAK"]).mayStart c =
        (caseClass c == 'd' || (caseClass c == 'd' || caseClass c == 'd')) := rfl
    rw [hstart, hc]
    rfl

/-- Each family reads texts of its own letters. -/
theorem listed_families : ∀ x ∈ families.zip familyLetters, Listed x.2 x.1.1 := by
  have hcode {names : List String} {name code : String} (h : name ∈ names ∧
      (∀ other ∈ hyphenated, other ∈ names → other = name) ∧ areCodes [code] = true ∧
      (exact code).unconditional = true ∧ (exact code).mayStart '-' = false) :
      Named true names (family name ++ exact code) :=
    named_family h.1 (isCode_exact h.2.2.1 h.2.2.2.1 h.2.2.2.2) fun _ => h.2.1
  have honeOf (short : Bool) {names : List String} {name : String} {codes : List String}
      (h : name ∈ names ∧ (∀ other ∈ hyphenated, other ∈ names → other = name) ∧
        areCodes codes = true ∧ (oneOf codes).unconditional = true ∧
        (oneOf codes).mayStart '-' = false) : Named short names (family name ++ oneOf codes) :=
    named_family h.1 (isCode_oneOf h.2.2.1 h.2.2.2.1 h.2.2.2.2) fun _ => h.2.1
  have hpins {names : List String} {name : String} (h : name ∈ names) :
      Named false names (family name ++ digits) :=
    named_family h isCode_digits fun h => absurd h Bool.false_ne_true
  have hmore {short : Bool} {texts : List String} (h : (∀ text ∈ texts,
      leadingDigits text.toList = 0 ∧
        (text.toList.map caseClass).getLast?.any Char.isAlphanum = true) ∧
      (oneOf texts).unconditional = true) : IsSuffix short (oneOf texts) := isSuffix_oneOf h.1 h.2
  have hlong : IsSuffix true (caseless "L") := @hmore true ["L"] (by decide +kernel)
  have hfull : IsSuffix true (caseless "F") := @hmore true ["F"] (by decide +kernel)
  have hpad : IsSuffix false (caseless "-EP") := @hmore false ["-EP"] (by decide +kernel)
  have hthree : IsCode true (caseless "3P") :=
    @isCode_oneOf true ["3P"] (by decide +kernel) rfl (by decide +kernel)
  simp only [families, familyLetters, List.zip_cons_cons, List.zip_nil_right,
    List.forall_mem_cons]
  refine ⟨listed_exact ?_, listed_exact ?_, listed_sizes (fun _ => reads_oneOf_iff.mp) ?_,
    listed_anyOf ?transistors, (honeOf true ?_).listed ?_,
    ((honeOf false ?_).maybe (hmore ?_)).listed ?_,
    listed_anyOf ?leaded, listed_anyOf ?flat, (named_pinned ?_).body ?_, (named_pinned ?_).body ?_,
    ((named_pinned ?_).maybe hpad).body ?_, listed_anyOf ?inline, listed_anyOf ?shrunk,
    listed_anyOf ?small, (hpins ?_).listed ?_, listed_anyOf ?module, by simp⟩
  case transistors =>
    simp only [List.forall_mem_cons]
    refine ⟨(((hcode ?_).maybe isSuffix_variant).maybe hlong).listed ?_,
      ((hcode ?_).maybe isSuffix_variant).listed ?_, ((hcode ?_).maybe isSuffix_variant).listed ?_,
      ((hcode ?_).maybe isSuffix_variant).listed ?_, ((hcode ?_).maybe isSuffix_variant).listed ?_,
      ((hcode ?_).maybe isSuffix_variant).listed ?_, ((hcode ?_).maybe isSuffix_variant).listed ?_,
      by simp⟩
    all_goals decide +kernel
  case leaded =>
    simp only [List.forall_mem_cons]
    refine ⟨((hcode ?_).maybe (hmore ?_)).listed ?_,
      (((hcode ?_).maybe (hmore ?_)).maybe isSuffix_variant).listed ?_,
      ((hcode ?_).maybe isSuffix_variant).listed ?_, ((hcode ?_).maybe isSuffix_variant).listed ?_,
      ((hcode ?_).maybe isSuffix_variant).listed ?_, (hcode ?_).listed ?_,
      ((named_family ?_ hthree ?_).maybe hfull).listed ?_, listed_dpak, by simp⟩
    all_goals decide +kernel
  case flat =>
    simp only [List.forall_mem_cons]
    refine ⟨((@named_pinned _ "QFN" ["V"] ?_).maybe hpad).body ?_, ((hpins ?_).maybe hpad).body ?_,
      (hpins ?_).listed ?_, (hpins ?_).listed ?_, (hpins ?_).listed ?_, by simp⟩
    all_goals decide +kernel
  case inline =>
    simp only [List.forall_mem_cons]
    refine ⟨(named_pinned ?_).body ?_, (hpins ?_).listed ?_, by simp⟩
    all_goals decide +kernel
  case shrunk =>
    intro p hp
    obtain ⟨name, hname, rfl⟩ := List.mem_map.mp hp
    exact (hpins hname).listed (by decide +kernel)
  case small =>
    simp only [List.forall_mem_cons]
    refine ⟨((hpins ?_).maybe isSuffix_variant).body ?_,
      ((hpins ?_).maybe isSuffix_variant).body ?_, by simp⟩
    all_goals decide +kernel
  case module =>
    simp only [List.forall_mem_cons]
    refine ⟨(hpins ?_).listed ?_, (hpins ?_).listed ?_, by simp⟩
    all_goals decide +kernel
  all_goals decide +kernel

end Listed

end PackageHit

end PartSearch
