import PartSearch.Proofs.SpelledNames
import PartSearch.Reading.Package

/-!
# What package designators are made of

A designator is a size, a short code, or the letters of a family, perhaps a hyphen, and what comes
behind it: a pin count or size code, and last perhaps a variant, an exposed pad or a body size.
`Anatomy` says so for the families, and `unglued_or_anatomy` for all designators.
-/

namespace PartSearch.PackageHit

open Text Text.Pattern

/-- The letters of a name, perhaps a hyphen, and something of a kind that does not start with a
letter. -/
def Anatomy (names : List String) (kind : List Char → Prop) (cs : List Char) : Prop :=
  ∃ name ∈ names, ∃ letters hyphen behind, cs = letters ++ (hyphen ++ behind) ∧
    letters.map caseClass = name.toList.map caseClass ∧ (hyphen = [] ∨ hyphen = ['-']) ∧
    behind.head?.any nonLetter = true ∧ kind behind

/-- A digit, or a letter of an exposed pad or of a long form. -/
def isPlain (c : Char) : Bool :=
  isDigit c || caseClass c = 'e' || caseClass c = 'p' || caseClass c = 'l'

def Unhyphenated (cs : List Char) : Prop := '-' ∉ cs

/-- At most one hyphen with nothing but plain characters behind it, unless a body size is given. -/
def PlainEnded (cs : List Char) : Prop :=
  '(' ∈ cs ∨ ∃ front back, '-' ∉ front ∧ (∀ c ∈ back, isPlain c = true) ∧
    (cs = front ∨ cs = front ++ '-' :: back)

/-- A pin count or a size code. -/
structure IsNumber (cs : List Char) : Prop where
  starts : cs.head?.any nonLetter = true
  unhyphenated : '-' ∉ cs

def ReadsOnly (p : Pattern) (kind : List Char → Prop) : Prop := ∀ read, p.Reads read → kind read

theorem Anatomy.spells {names : List String} {kind : List Char → Prop} {cs : List Char}
    (h : Anatomy names kind cs) : ∃ name ∈ names, Spells name cs := by
  obtain ⟨name, hname, letters, hyphen, behind, rfl, hletters, hhyphen, hbehind, -⟩ := h
  exact ⟨name, hname, spells_append hletters hhyphen hbehind⟩

/-! ### Parts of a designator -/

section Parts

theorem reads_oneOf_iff {texts : List String} {read : List Char} :
    (oneOf texts).Reads read ↔
      ∃ text ∈ texts, read.map caseClass = text.toList.map caseClass := by
  rw [oneOf, reads_anyOf_iff]
  simp [reads_caseless_iff]

theorem reads_maybe_iff {p : Pattern} {read : List Char} :
    (maybe p).Reads read ↔ p.Reads read ∨ read = [] := by
  rw [maybe, reads_either_iff]
  refine or_congr_right ⟨?_, ?_⟩
  · rintro ⟨⟩
    rfl
  · rintro rfl
    exact .nothing

theorem isDigit_of_reads_digits {read : List Char} (h : digits.Reads read) :
    ∀ c ∈ read, isDigit c = true := by
  obtain ⟨a, b, ha, hb, rfl⟩ := reads_append_iff.mp h
  obtain ⟨c, hc, rfl⟩ := reads_one_iff.mp ha
  exact List.forall_mem_cons.mpr ⟨hc, forall_of_reads_many_one hb⟩

theorem ne_hyphen_of_isDigit {c : Char} (h : isDigit c = true) : c ≠ '-' := by
  rintro rfl
  exact absurd h (by decide)

theorem ne_hyphen_of_isPlain {c : Char} (h : isPlain c = true) : c ≠ '-' := by
  rintro rfl
  exact absurd h (by decide)

theorem isNumber_digits : ReadsOnly digits IsNumber := fun read hread =>
  ⟨startsOther_digits read hread, fun hmem =>
    ne_hyphen_of_isDigit (isDigit_of_reads_digits hread '-' hmem) rfl⟩

theorem isNumber_exact {text : String}
    (h : text.toList.head?.any nonLetter = true ∧ '-' ∉ text.toList) :
    ReadsOnly (exact text) IsNumber := by
  intro read hread
  obtain rfl := reads_exact_iff.mp hread
  exact ⟨h.1, h.2⟩

theorem hyphen_mem_of_map_eq {cs ds : List Char} (h : cs.map caseClass = ds.map caseClass)
    (hmem : '-' ∈ cs) : '-' ∈ ds.map caseClass :=
  h ▸ List.mem_map.mpr ⟨'-', hmem, by decide⟩

theorem unhyphenated_oneOf {texts : List String}
    (h : ∀ text ∈ texts, '-' ∉ text.toList.map caseClass) :
    ReadsOnly (oneOf texts) Unhyphenated := by
  intro read hread hmem
  obtain ⟨text, htext, hmap⟩ := reads_oneOf_iff.mp hread
  exact h text htext (hyphen_mem_of_map_eq hmap hmem)

theorem isNumber_oneOf {texts : List String}
    (h : ∀ text ∈ texts, text.toList.head?.any nonLetter = true ∧
      '-' ∉ text.toList.map caseClass) :
    ReadsOnly (oneOf texts) IsNumber := by
  intro read hread
  refine ⟨?_, unhyphenated_oneOf (fun text htext => (h text htext).2) read hread⟩
  obtain ⟨text, htext, hmap⟩ := reads_oneOf_iff.mp hread
  have hstarts := (h text htext).1
  generalize text.toList = cs at hmap hstarts
  cases cs with
  | nil => cases hstarts
  | cons d cs =>
      cases read with
      | nil => cases hmap
      | cons c read =>
          have hclass : caseClass c = caseClass d := (List.cons.inj hmap).1
          have hd : nonLetter d = true := hstarts
          have hc : nonLetter c = true := by rwa [nonLetter, hclass]
          exact hc

theorem ReadsOnly.maybe {p : Pattern} {kind : List Char → Prop} (h : ReadsOnly p kind)
    (hnil : kind []) : ReadsOnly (maybe p) kind := by
  intro read hread
  rcases reads_maybe_iff.mp hread with hread | rfl
  · exact h read hread
  · exact hnil

/-- What may stand behind a hyphen at the end of a number. -/
def Tail (cs : List Char) : Prop :=
  cs = [] ∨ ∃ back, cs = '-' :: back ∧ ∀ c ∈ back, isPlain c = true

theorem tail_variant : ReadsOnly variant Tail := by
  refine ReadsOnly.maybe (fun read hread => ?_) (Or.inl rfl)
  obtain ⟨a, b, ha, hb, rfl⟩ := reads_append_iff.mp hread
  obtain ⟨c, hc, rfl⟩ := reads_one_iff.mp ha
  obtain rfl : c = '-' := by simpa using hc
  refine Or.inr ⟨b, rfl, fun c hc => ?_⟩
  rw [isPlain, isDigit_of_reads_digits hb c hc]
  rfl

theorem tail_exposedPad : ReadsOnly exposedPad Tail := by
  refine ReadsOnly.maybe (fun read hread => ?_) (Or.inl rfl)
  have hmap : read.map caseClass = ['-', 'e', 'p'] := reads_caseless_iff.mp hread
  obtain ⟨c, back, rfl, hc, hback⟩ := List.map_eq_cons_iff.mp hmap
  refine Or.inr ⟨back, by rw [eq_hyphen_of_caseClass hc], fun d hd => ?_⟩
  have hclass : caseClass d ∈ ['e', 'p'] := hback ▸ List.mem_map_of_mem hd
  rcases List.mem_pair.mp hclass with hd | hd <;> simp [isPlain, hd]

theorem plain_longForm :
    ReadsOnly (maybe (caseless "L")) fun cs => ∀ c ∈ cs, isPlain c = true := by
  refine ReadsOnly.maybe (fun read hread => ?_) (by simp)
  have hmap : read.map caseClass = ['l'] := reads_caseless_iff.mp hread
  obtain ⟨c, rfl, hc⟩ := List.map_eq_singleton_iff.mp hmap
  simp [isPlain, hc]

theorem body_bodySize : ReadsOnly bodySize (fun cs => cs = [] ∨ '(' ∈ cs) := by
  refine ReadsOnly.maybe (fun read hread => ?_) (Or.inl rfl)
  obtain ⟨inner, close, hinner, -, rfl⟩ := reads_append_iff.mp hread
  obtain ⟨opening, body, hopening, -, rfl⟩ := reads_append_iff.mp hinner
  obtain ⟨c, hc, rfl⟩ := reads_one_iff.mp hopening
  obtain rfl : c = '(' := by simpa using hc
  exact Or.inr (by simp)

end Parts

section Anatomy

variable {p q : Pattern} {names : List String} {kind kind' : List Char → Prop}

theorem ReadsOnly.append (h : ReadsOnly p (Anatomy names kind))
    (hkind : ∀ behind read, kind behind → q.Reads read → kind' (behind ++ read)) :
    ReadsOnly (p ++ q) (Anatomy names kind') := by
  intro read hread
  obtain ⟨a, b, ha, hb, rfl⟩ := reads_append_iff.mp hread
  obtain ⟨name, hname, letters, hyphen, behind, rfl, hletters, hhyphen, hbehind, hend⟩ := h a ha
  refine ⟨name, hname, letters, hyphen, behind ++ b, by simp, hletters, hhyphen, ?_,
    hkind behind b hend hb⟩
  cases behind with
  | nil => cases hbehind
  | cons c behind => exact hbehind

theorem ReadsOnly.unhyphenated (h : ReadsOnly p (Anatomy names Unhyphenated))
    (hq : ReadsOnly q Unhyphenated) : ReadsOnly (p ++ q) (Anatomy names Unhyphenated) :=
  h.append fun _ read hbehind hread hmem =>
    (List.mem_append.mp hmem).elim hbehind (hq read hread)

theorem ReadsOnly.tail (h : ReadsOnly p (Anatomy names Unhyphenated)) (hq : ReadsOnly q Tail) :
    ReadsOnly (p ++ q) (Anatomy names PlainEnded) := by
  refine h.append fun behind read hbehind hread => Or.inr ?_
  rcases hq read hread with rfl | ⟨back, rfl, hback⟩
  · exact ⟨behind, [], hbehind, by simp, Or.inl (List.append_nil behind)⟩
  · exact ⟨behind, back, hbehind, hback, Or.inr rfl⟩

theorem ReadsOnly.plain (h : ReadsOnly p (Anatomy names PlainEnded))
    (hq : ReadsOnly q fun cs => ∀ c ∈ cs, isPlain c = true) :
    ReadsOnly (p ++ q) (Anatomy names PlainEnded) := by
  refine h.append fun behind read hbehind hread => ?_
  have hread := hq read hread
  rcases hbehind with hbody | ⟨front, back, hfront, hback, rfl | rfl⟩
  · exact Or.inl (List.mem_append_left read hbody)
  · refine Or.inr ⟨behind ++ read, [], ?_, by simp, Or.inl rfl⟩
    exact fun hmem => (List.mem_append.mp hmem).elim hfront fun hmem =>
      ne_hyphen_of_isPlain (hread '-' hmem) rfl
  · refine Or.inr ⟨front, back ++ read, hfront, ?_, Or.inr (by simp)⟩
    exact fun c hc => (List.mem_append.mp hc).elim (hback c) (hread c)

theorem ReadsOnly.body (h : ReadsOnly p (Anatomy names PlainEnded)) :
    ReadsOnly (p ++ bodySize) (Anatomy names PlainEnded) := by
  refine h.append fun behind read hbehind hread => ?_
  rcases body_bodySize read hread with rfl | hbody
  · rwa [List.append_nil]
  · exact Or.inl (List.mem_append_right behind hbody)

theorem ReadsOnly.plainEnded (h : ReadsOnly p (Anatomy names Unhyphenated)) :
    ReadsOnly p (Anatomy names PlainEnded) := by
  intro read hread
  obtain ⟨name, hname, letters, hyphen, behind, hwhole, hletters, hhyphen, hbehind, hend⟩ :=
    h read hread
  exact ⟨name, hname, letters, hyphen, behind, hwhole, hletters, hhyphen, hbehind,
    Or.inr ⟨behind, [], hend, by simp, Or.inl rfl⟩⟩

theorem reads_family {name : String} {read : List Char} (h : (family name).Reads read) :
    ∃ letters hyphen, read = letters ++ hyphen ∧
      letters.map caseClass = name.toList.map caseClass ∧ (hyphen = [] ∨ hyphen = ['-']) := by
  obtain ⟨letters, hyphen, hletters, hhyphen, rfl⟩ := reads_append_iff.mp h
  refine ⟨letters, hyphen, rfl, reads_caseless_iff.mp hletters, ?_⟩
  rcases reads_maybe_iff.mp hhyphen with hone | rfl
  · obtain ⟨c, hc, rfl⟩ := reads_one_iff.mp hone
    exact Or.inr (by simpa using hc)
  · exact Or.inl rfl

theorem anatomy_family_of {name : String} (h : name ∈ names) (hstart : q.StartsOther)
    (hkind : ReadsOnly q kind) : ReadsOnly (family name ++ q) (Anatomy names kind) := by
  intro read hread
  obtain ⟨front, behind, hfront, hbehind, rfl⟩ := reads_append_iff.mp hread
  obtain ⟨letters, hyphen, rfl, hletters, hhyphen⟩ := reads_family hfront
  exact ⟨name, h, letters, hyphen, behind, List.append_assoc _ _ _, hletters, hhyphen,
    hstart behind hbehind, hkind behind hbehind⟩

theorem anatomy_family {name : String} (h : name ∈ names) (hq : ReadsOnly q IsNumber) :
    ReadsOnly (family name ++ q) (Anatomy names Unhyphenated) :=
  anatomy_family_of h (fun read hread => (hq read hread).starts)
    (fun read hread => (hq read hread).unhyphenated)

/-- A family whose letters may have some more letters in front. -/
theorem anatomy_pinned_of {leads : List String} {name : String}
    (h : ∀ lead ∈ "" :: leads, lead ++ name ∈ names) (hkind : ReadsOnly digits kind) :
    ReadsOnly (pinned leads name) (Anatomy names kind) := by
  intro read hread
  obtain ⟨head, behind, hhead, hbehind, rfl⟩ := reads_append_iff.mp hread
  obtain ⟨front, rest, hfront, hrest, rfl⟩ := reads_append_iff.mp hhead
  obtain ⟨letters, hyphen, rfl, hletters, hhyphen⟩ := reads_family hrest
  obtain ⟨lead, hlead, hmap⟩ : ∃ lead ∈ "" :: leads,
      front.map caseClass = lead.toList.map caseClass := by
    rcases reads_maybe_iff.mp hfront with hone | rfl
    · obtain ⟨lead, hlead, hmap⟩ := reads_oneOf_iff.mp hone
      exact ⟨lead, List.mem_cons_of_mem _ hlead, hmap⟩
    · exact ⟨"", List.mem_cons_self, rfl⟩
  exact ⟨lead ++ name, h lead hlead, front ++ letters, hyphen, behind, by simp,
    by simp [hmap, hletters], hhyphen, startsOther_digits behind hbehind, hkind behind hbehind⟩

theorem anatomy_pinned {leads : List String} {name : String}
    (h : ∀ lead ∈ "" :: leads, lead ++ name ∈ names) :
    ReadsOnly (pinned leads name) (Anatomy names Unhyphenated) :=
  anatomy_pinned_of h fun read hread => (isNumber_digits read hread).unhyphenated

end Anatomy

/-! ### The families -/

/-- The letters of the families, with all their leads. -/
def familyNames : List String := [
  "SOT", "SOD", "DO", "TO", "QFN", "VQFN", "DFN", "WQFN", "TQFN", "UQFN", "QFP", "LQFP", "TQFP",
  "HQFP", "PQQFP", "BGA", "FCBGA", "WBGA", "TBGA", "MBGA", "UBGA", "PBGA", "FBGA", "CSP", "WLCSP",
  "LFCSP", "UCSP", "FCCSP", "VCSP", "DIP", "PDIP", "SDIP", "SKDIP", "CDIP", "SIP", "TSSOP", "SSOP",
  "MSOP", "QSOP", "HTSSOP", "VSSOP", "SOP", "SOIC", "SO", "SMD", "LGA"]

/-- A size, a text of letters only, or one with a single letter in front. -/
def Unglued (cs : List Char) : Prop :=
  (lead cs = [] ∧ cs.all (fun c => nonLetter c || caseClass c = 'm') = true) ∨
    cs.any nonLetter = false ∨ (lead cs).length = 1

def Designates (cs : List Char) : Prop := Unglued cs ∨ Anatomy familyNames PlainEnded cs

section Families

variable {p q : Pattern}

theorem unglued_of_map_eq {cs ds : List Char} (h : cs.map caseClass = ds.map caseClass)
    (hds : Unglued ds) : Unglued cs := by
  have hall (es : List Char) : (es.all fun c => nonLetter c || caseClass c = 'm') =
      (es.map caseClass).all fun c => !c.isAlpha || c = 'm' := by
    rw [List.all_map]
    rfl
  rwa [Unglued, any_nonLetter_of_map_eq h, lead_eq_of_map_eq h, hall, h, ← hall]

instance (cs : List Char) : Decidable (Unglued cs) := inferInstanceAs (Decidable (_ ∨ _))

theorem designates_oneOf {texts : List String} (h : ∀ text ∈ texts, Unglued text.toList) :
    ReadsOnly (oneOf texts) Designates := by
  intro read hread
  obtain ⟨text, htext, hmap⟩ := reads_oneOf_iff.mp hread
  exact Or.inl (unglued_of_map_eq hmap (h text htext))

theorem readsOnly_anyOf {ps : List Pattern} {kind : List Char → Prop}
    (h : ∀ p ∈ ps, ReadsOnly p kind) : ReadsOnly (anyOf ps) kind := by
  intro read hread
  obtain ⟨p, hp, hread⟩ := reads_anyOf_iff.mp hread
  exact h p hp read hread

theorem designates_sizes {texts : List String} (h : ∀ text ∈ texts, Unglued text.toList) :
    ReadsOnly (anyOf (texts.map exact)) Designates := by
  refine readsOnly_anyOf fun p hp read hread => ?_
  obtain ⟨text, htext, rfl⟩ := List.mem_map.mp hp
  obtain rfl := reads_exact_iff.mp hread
  exact Or.inl (h text htext)

theorem ReadsOnly.designates (h : ReadsOnly p (Anatomy familyNames PlainEnded)) :
    ReadsOnly p Designates := fun read hread => Or.inr (h read hread)

/-- Sizes, and outline packages: a size code behind the letters, then a variant or more letters. -/
theorem designates_outlines : ∀ entry ∈ families.take 7, ReadsOnly entry.1 Designates := by
  have hcode (name code : String) (h : name ∈ familyNames ∧
      code.toList.head?.any nonLetter = true ∧ '-' ∉ code.toList) :
      ReadsOnly (family name ++ exact code) (Anatomy familyNames Unhyphenated) :=
    anatomy_family h.1 (isNumber_exact h.2)
  have hmore (texts : List String) (h : ∀ text ∈ texts, '-' ∉ text.toList.map caseClass) :
      ReadsOnly (maybe (oneOf texts)) Unhyphenated :=
    (unhyphenated_oneOf h).maybe List.not_mem_nil
  have hvariant (name code : String) (h : name ∈ familyNames ∧
      code.toList.head?.any nonLetter = true ∧ '-' ∉ code.toList) :
      ReadsOnly (family name ++ exact code ++ variant) Designates :=
    ((hcode name code h).tail tail_variant).designates
  have hthree : ReadsOnly (caseless "3P") IsNumber :=
    isNumber_oneOf (show ∀ text ∈ ["3P"], _ by decide +kernel)
  simp only [families, List.take_succ_cons, List.take_zero, List.forall_mem_cons]
  refine ⟨designates_sizes ?_, designates_sizes ?_, designates_oneOf ?_,
    readsOnly_anyOf ?transistors,
    (anatomy_family ?_ (isNumber_oneOf ?_)).plainEnded.designates,
    ((anatomy_family ?_ (isNumber_oneOf ?_)).unhyphenated (hmore _ ?_)).plainEnded.designates,
    readsOnly_anyOf ?leaded, by simp⟩
  case transistors =>
    simp only [List.forall_mem_cons]
    refine ⟨(((hcode "SOT" "23" ?_).tail tail_variant).plain plain_longForm).designates,
      hvariant "SOT" "89" ?_, hvariant "SOT" "223" ?_, hvariant "SOT" "323" ?_,
      hvariant "SOT" "363" ?_, hvariant "SOT" "523" ?_, hvariant "SOT" "723" ?_, by simp⟩
    all_goals decide +kernel
  case leaded =>
    simp only [List.forall_mem_cons]
    refine ⟨((hcode "TO" "92" ?_).unhyphenated (hmore ["S", "L"] ?_)).plainEnded.designates,
      (((hcode "TO" "220" ?_).unhyphenated (hmore ["F", "FP", "AB"] ?_)).tail
        tail_variant).designates,
      hvariant "TO" "252" ?_, hvariant "TO" "263" ?_, hvariant "TO" "247" ?_,
      (hcode "TO" "251" ?_).plainEnded.designates,
      ((anatomy_family ?_ hthree).unhyphenated (hmore ["F"] ?_)).plainEnded.designates,
      designates_oneOf ?_, by simp⟩
    all_goals decide +kernel
  all_goals decide +kernel

theorem designates_diodeOutline :
    ReadsOnly (caseless "SM" ++ caselessCharOf "ABC") Designates := by
  intro read hread
  obtain ⟨a, b, ha, hb, rfl⟩ := reads_append_iff.mp hread
  obtain ⟨c, hc, rfl⟩ := reads_one_iff.mp hb
  have hletters : a.any nonLetter = false := by
    rw [any_nonLetter_of_map_eq (reads_caseless_iff.mp ha)]
    decide
  obtain ⟨d, hd, hclass⟩ := List.any_eq_true.mp hc
  have hletter : nonLetter c = false := by
    have hnone : "ABC".toList.any nonLetter = false := by decide
    rw [nonLetter, eq_of_beq hclass]
    exact Bool.eq_false_iff.mpr (List.any_eq_false.mp hnone d hd)
  exact Or.inl (Or.inr (Or.inl (by simp [hletters, hletter])))

theorem designates_diodeCode : ReadsOnly (caseless "M" ++ charOf "478") Designates := by
  intro read hread
  obtain ⟨a, b, ha, hb, rfl⟩ := reads_append_iff.mp hread
  obtain ⟨c, hc, rfl⟩ := reads_one_iff.mp hb
  have hother : nonLetter c = true := by
    have hall : "478".toList.all nonLetter = true := by decide
    exact List.all_eq_true.mp hall c (List.contains_iff_mem.mp hc)
  refine Or.inl (Or.inr (Or.inr ?_))
  rw [lead_append (Or.inr (by simpa using hother)), lead_eq_of_map_eq (reads_caseless_iff.mp ha)]
  decide

/-- Packages with a pin count, and the short codes of diode packages. -/
theorem designates_pinned : ∀ entry ∈ families.drop 7, entry.2 ≠ .receptacle →
    ReadsOnly entry.1 Designates := by
  have hpins (name : String) (h : name ∈ familyNames) :
      ReadsOnly (family name ++ digits) (Anatomy familyNames Unhyphenated) :=
    anatomy_family h isNumber_digits
  have hpinned (leads : List String) (name : String)
      (h : ∀ lead ∈ "" :: leads, lead ++ name ∈ familyNames) :
      ReadsOnly (pinned leads name) (Anatomy familyNames Unhyphenated) := anatomy_pinned h
  simp only [families, List.drop_succ_cons, List.drop_zero, List.forall_mem_cons]
  refine ⟨fun _ => readsOnly_anyOf ?flat, fun _ => (hpinned _ _ ?_).plainEnded.body.designates,
    fun _ => (hpinned _ _ ?_).plainEnded.body.designates,
    fun _ => ((hpinned _ _ ?_).tail tail_exposedPad).body.designates,
    fun _ => readsOnly_anyOf ?inline, fun _ => readsOnly_anyOf ?shrunk,
    fun _ => readsOnly_anyOf ?small, fun _ => (hpins _ ?_).plainEnded.designates,
    fun _ => readsOnly_anyOf ?module, fun _ => ?outline, fun _ => ?code, fun h => absurd rfl h,
    by simp⟩
  case flat =>
    simp only [List.forall_mem_cons]
    refine ⟨((hpinned ["V"] "QFN" ?_).tail tail_exposedPad).body.designates,
      ((hpins "DFN" ?_).tail tail_exposedPad).body.designates,
      (hpins "WQFN" ?_).plainEnded.designates, (hpins "TQFN" ?_).plainEnded.designates,
      (hpins "UQFN" ?_).plainEnded.designates, by simp⟩
    all_goals decide +kernel
  case inline =>
    simp only [List.forall_mem_cons]
    refine ⟨(hpinned _ _ ?_).plainEnded.body.designates, (hpins "SIP" ?_).plainEnded.designates,
      by simp⟩
    all_goals decide +kernel
  case shrunk =>
    have hall : ∀ name ∈ ["TSSOP", "SSOP", "MSOP", "QSOP", "HTSSOP", "VSSOP"],
        name ∈ familyNames := by decide +kernel
    intro p hp
    obtain ⟨name, hname, rfl⟩ := List.mem_map.mp hp
    exact (hpins name (hall name hname)).plainEnded.designates
  case small =>
    simp only [List.forall_mem_cons]
    refine ⟨((hpins "SOP" ?_).tail tail_variant).body.designates,
      ((hpins "SOIC" ?_).tail tail_variant).body.designates, by simp⟩
    all_goals decide +kernel
  case module =>
    simp only [List.forall_mem_cons]
    refine ⟨(hpins "SMD" ?_).plainEnded.designates, (hpins "LGA" ?_).plainEnded.designates, by simp⟩
    all_goals decide +kernel
  case outline => exact designates_diodeOutline
  case code => exact designates_diodeCode
  all_goals decide +kernel

theorem designates_of_mem_families {entry : Pattern × Meaning} (h : entry ∈ families)
    (hmeaning : entry.2 ≠ .receptacle) : ReadsOnly entry.1 Designates := by
  rw [← List.take_append_drop 7 families, List.mem_append] at h
  exact h.elim (designates_outlines entry) fun h => designates_pinned entry h hmeaning

end Families

end PartSearch.PackageHit
