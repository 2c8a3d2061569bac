import PartSearch.Proofs.CutTraces
import PartSearch.Proofs.SpelledNames
import PartSearch.Proofs.Surroundings
import PartSearch.Reading.Package

/-!
# Packages in the spelling of the catalog

The letters of a package are brought to capitals, and a hyphen is put between the letters of three
families and a digit right behind them. With those letters a designator comes out alike with and
without its hyphen, `canonical_respelled`, and with all others it keeps what stands behind its
letters, `canonical_append_cons`.
-/

namespace PartSearch

namespace Text

/-! ### Capitals -/

section Capitals

variable {c d : Char} {letters : List Char}

theorem upperChar_of_isDigit (h : isDigit c = true) : upperChar c = [c] := by
  have hruns : (Table.digit.all fun r => Table.upperRuns.all fun run =>
      r.2 < run.1 || run.2.1 < r.1) = true := by decide +kernel
  have hsequences : (Table.digit.all fun r => Table.upperSequences.all fun entry =>
      r.2 < entry.1 || entry.1 < r.1) = true := by decide +kernel
  rw [isDigit] at h
  rw [upperChar]
  split at h
  · rename_i hascii
    have hcode := toNat_of_isDigit h
    have halpha : c.isAlpha = false := by
      rw [isAlpha_eq_false_iff]
      omega
    rw [if_pos hascii, (toUpper_eq_iff halpha).mpr rfl]
  · rename_i hwide
    obtain ⟨r, hr, hin⟩ := List.any_eq_true.mp h
    simp only [Bool.and_eq_true, decide_eq_true_eq] at hin
    have hlookup : Table.upperSequences.lookup c.toNat = none := by
      rw [List.lookup_eq_none_iff]
      intro entry hentry
      have hapart := List.all_eq_true.mp (List.all_eq_true.mp hsequences r hr) entry hentry
      rw [Bool.or_eq_true, decide_eq_true_eq, decide_eq_true_eq] at hapart
      rw [bne_iff_ne]
      omega
    have hfind : mapByRuns Table.upperRuns c = none := by
      rw [mapByRuns, Option.map_eq_none_iff, List.find?_eq_none]
      rintro ⟨first, last, step, offset⟩ hrun hin'
      have hapart := List.all_eq_true.mp (List.all_eq_true.mp hruns r hr) _ hrun
      simp only [Bool.or_eq_true, Bool.and_eq_true, decide_eq_true_eq] at hapart hin'
      omega
    rw [if_neg hwide, hlookup, hfind]
    rfl

theorem map_caseClass_upperChar (h : nonLetter c = false) :
    (upperChar c).map caseClass = [caseClass c] := by
  by_cases hsign : c ∈ signs
  · have htable : (signs.all fun c =>
        nonLetter c || (upperChar c).map caseClass == [caseClass c]) = true := by decide +kernel
    have hcase := List.all_eq_true.mp htable c hsign
    rwa [h, Bool.false_or, beq_iff_eq] at hcase
  · have halpha : c.isAlpha = true := by
      by_contra hother
      rw [nonLetter, caseClass_eq_toLower hsign,
        toLower_of_not_isAlpha (Bool.eq_false_iff.mpr hother)] at h
      exact hother (by simpa using h)
    have hascii : isAscii c = true :=
      decide_eq_true (lt_of_isAlphanum (by rw [Char.isAlphanum, halpha, Bool.true_or]))
    rw [upperChar, if_pos hascii, List.map_singleton, caseClass_toUpper]

theorem map_caseClass_upper (h : letters.any nonLetter = false) :
    (upper letters).map caseClass = letters.map caseClass := by
  induction letters with
  | nil => rfl
  | cons c letters ih =>
      obtain ⟨hc, hletters⟩ := Bool.or_eq_false_iff.mp h
      rw [upper, List.flatMap_cons, List.map_append, map_caseClass_upperChar hc, List.map_cons,
        ← ih hletters]
      rfl

/-- The letters of the names that are given a hyphen. -/
def hyphenLetters : List Char := ['S', 'O', 'T', 'D']

theorem upperChar_of_caseClass_eq (hd : d ∈ hyphenLetters) (h : caseClass c = caseClass d) :
    upperChar c = [d] := by
  by_cases hsign : c ∈ signs
  · have htable : (signs.all fun c => hyphenLetters.all fun d =>
        caseClass c != caseClass d || upperChar c == [d]) = true := by decide +kernel
    have hcase := List.all_eq_true.mp (List.all_eq_true.mp htable c hsign) d hd
    rwa [h, bne_self_eq_false, Bool.false_or, beq_iff_eq] at hcase
  · have hcapital : (hyphenLetters.all fun d =>
        !signs.contains d && 65 ≤ d.toNat && d.toNat ≤ 90) = true := by decide +kernel
    have hcase := List.all_eq_true.mp hcapital d hd
    simp only [Bool.and_eq_true, Bool.not_eq_true', List.contains_eq_mem, decide_eq_false_iff_not,
      decide_eq_true_eq] at hcase
    obtain ⟨⟨hother, hfirst⟩, hlast⟩ := hcase
    have hsmall := toNat_toLower d
    rw [if_pos ⟨hfirst, hlast⟩] at hsmall
    rw [caseClass_eq_toLower hsign, caseClass_eq_toLower hother, ← Char.toNat_inj, toNat_toLower,
      hsmall] at h
    have hcode : c.toNat = d.toNat ∨ c.toNat = d.toNat + 32 := by
      split at h <;> omega
    have hascii : isAscii c = true := decide_eq_true (by omega)
    rw [upperChar, if_pos hascii, List.singleton_inj, ← Char.toNat_inj, toNat_toUpper]
    split <;> omega

theorem upper_of_map_eq {name : List Char} (hname : ∀ d ∈ name, d ∈ hyphenLetters)
    (h : letters.map caseClass = name.map caseClass) : upper letters = name := by
  induction letters generalizing name with
  | nil =>
      rw [List.map_nil, eq_comm, List.map_eq_nil_iff] at h
      exact h.symm
  | cons c letters ih =>
      cases name with
      | nil => cases h
      | cons d name =>
          obtain ⟨hd, hname⟩ := List.forall_mem_cons.mp hname
          obtain ⟨hclass, hrest⟩ := List.cons.inj h
          rw [upper, List.flatMap_cons, upperChar_of_caseClass_eq hd hclass]
          exact congrArg (d :: ·) (ih hname hrest)

theorem upper_cons (h : upperChar c = [c]) (rest : List Char) :
    upper (c :: rest) = c :: upper rest := by
  rw [upper, List.flatMap_cons, h]
  rfl

theorem upper_append_cons (h : upperChar c = [c]) (rest : List Char) :
    upper (letters ++ c :: rest) = upper letters ++ c :: upper rest := by
  rw [← upper_cons h, upper, List.flatMap_append]
  rfl

theorem any_nonLetter_upper (h : letters.any nonLetter = false) :
    (upper letters).any nonLetter = false := by
  rw [any_nonLetter_of_map_eq (map_caseClass_upper h), h]

theorem isWordChar_of_letter (h : nonLetter c = false) : isWordChar c = true := by
  refine isWordChar_of_isAlphanum_caseClass ?_
  rw [nonLetter, Bool.not_eq_false'] at h
  rw [Char.isAlphanum, h, Bool.true_or]

theorem nonLetter_of_isDigit (h : isDigit c = true) : nonLetter c = true := by
  rw [nonLetter, isAlpha_caseClass_of_isDigit h]
  rfl

/-- A text has one way only to be split behind the letters that it starts with. -/
theorem append_cons_inj {letters' rest rest' : List Char} (hletters : letters.any nonLetter = false)
    (hletters' : letters'.any nonLetter = false) (hc : nonLetter c = true)
    (hd : nonLetter d = true) (h : letters ++ c :: rest = letters' ++ d :: rest') :
    letters = letters' ∧ c = d ∧ rest = rest' := by
  induction letters generalizing letters' with
  | nil =>
      cases letters' with
      | nil => exact ⟨rfl, List.cons.inj h⟩
      | cons e letters' =>
          obtain ⟨rfl, -⟩ := List.cons.inj h
          rw [List.any_cons, hc, Bool.true_or] at hletters'
          cases hletters'
  | cons e letters ih =>
      obtain ⟨he, hletters⟩ := Bool.or_eq_false_iff.mp hletters
      cases letters' with
      | nil =>
          obtain ⟨rfl, -⟩ := List.cons.inj h
          rw [hd] at he
          cases he
      | cons e' letters' =>
          obtain ⟨rfl, hrest⟩ := List.cons.inj h
          obtain ⟨rfl, hsame⟩ := ih hletters (Bool.or_eq_false_iff.mp hletters').2 hrest
          exact ⟨rfl, hsame⟩

end Capitals

end Text

namespace PackageHit

open Text Text.Pattern

/-! ### Hyphens -/

theorem replaceFrom_length {p : Pattern} {write : Found → List Char} (read before cs : List Char) :
    p.replaceFrom write before read.length (read ++ cs) =
      p.replaceFrom write (read.reverse ++ before) 0 cs := by
  induction read generalizing before with
  | nil => rfl
  | cons c read ih =>
      rw [List.length_cons, List.cons_append, replaceFrom, ih, List.reverse_cons,
        List.append_assoc, List.singleton_append]

/-- The letters of a family with a digit right behind them. -/
def gluedDigit (letters : Pattern) : Pattern := capture 1 letters ++ capture 2 digit

def restored (m : Found) : List Char := m.capture 1 ++ '-' :: m.capture 2

def hyphenate (letters : Pattern) (cs : List Char) : List Char :=
  (gluedDigit letters).replaceAll restored cs

theorem canonical_eq (cs : List Char) : canonical cs =
    hyphenate (edge ++ exact "TO") (hyphenate (exact "SOD") (hyphenate (exact "SOT") (upper cs))) :=
  rfl

/-- The pattern reads a name and nothing else, and finds it at the start of a text. -/
structure ReadsName (letters : Pattern) (name : List Char) : Prop where
  reads : ∀ read, letters.Reads read → read = name
  ne_nil : name ≠ []
  all_letters : name.any nonLetter = false
  startless : letters.startless = true
  captured : letters.captured = []
  found : ∀ d rest, isDigit d = true → (gluedDigit letters).at? [] (name ++ d :: rest) =
    some ⟨[], name ++ [d], rest, [⟨2, d :: rest, rest⟩, ⟨1, name ++ d :: rest, d :: rest⟩]⟩

section Names

theorem takes_exact (text : String) (rest : List Char) :
    (exact text).Takes text.toList rest [] := by
  unfold exact chars
  generalize text.toList = cs
  induction cs with
  | nil => exact .nothing rest
  | cons c cs ih => exact (Takes.char (beq_self_eq_true c) (cs ++ rest)).seq ih

theorem takes_gluedDigit (text : String) {d : Char} (hd : isDigit d = true) (rest : List Char) :
    (gluedDigit (exact text)).Takes (text.toList ++ [d]) rest
      [⟨2, d :: rest, rest⟩, ⟨1, text.toList ++ d :: rest, d :: rest⟩] :=
  ((takes_exact text (d :: rest)).capture 1).seq ((Takes.char hd rest).capture 2)

variable {text : String} (hname : text.toList ≠ [] ∧ text.toList.any nonLetter = false)
  (hstartless : (exact text).startless = true) (hcaptured : (exact text).captured = [])

include hname hstartless hcaptured

theorem readsName_exact : ReadsName (exact text) text.toList where
  reads := fun _ => reads_exact_iff.mp
  ne_nil := hname.1
  all_letters := hname.2
  startless := hstartless
  captured := hcaptured
  found := by
    intro d rest hd
    have hat := (takes_gluedDigit text hd rest).at?_eq []
    rwa [List.append_assoc] at hat

theorem readsName_edge : ReadsName (edge ++ exact text) text.toList where
  reads := by
    intro read hread
    obtain ⟨a, b, hedge, hb, rfl⟩ := reads_append_iff.mp hread
    cases hedge
    exact reads_exact_iff.mp hb
  ne_nil := hname.1
  all_letters := hname.2
  startless := hstartless
  captured := hcaptured
  found := by
    intro d rest hd
    have hedge : (Place.mk [] (text.toList ++ d :: rest) []).isEdge = true := by
      obtain ⟨c, cs, hcs⟩ := List.exists_cons_of_ne_nil hname.1
      have hletter : nonLetter c = false := by
        have hletters := hname.2
        rw [hcs] at hletters
        exact (Bool.or_eq_false_iff.mp hletters).1
      have hword := isWordChar_of_letter hletter
      simp [Place.isEdge, hcs, hword]
    have hends : (gluedDigit (edge ++ exact text)).ends ⟨[], text.toList ++ d :: rest, []⟩ =
        (gluedDigit (exact text)).ends ⟨[], text.toList ++ d :: rest, []⟩ := by
      change ((((edge.ends _).flatMap (exact text).ends).map _).flatMap _) = _
      rw [ends, if_pos hedge, List.flatMap_singleton]
      rfl
    rw [at?, hends]
    exact (readsName_exact hname hstartless hcaptured).found d rest hd

end Names

section Hyphenate

variable {letters : Pattern} {name : List Char} (h : ReadsName letters name)

include h

theorem ReadsName.reads_gluedDigit {read : List Char}
    (hread : (gluedDigit letters).Reads read) : ∃ d, isDigit d = true ∧ read = name ++ [d] := by
  obtain ⟨a, b, ha, hb, rfl⟩ := reads_append_iff.mp hread
  obtain ⟨d, hd, rfl⟩ := reads_one_iff.mp (reads_capture_iff.mp hb)
  exact ⟨d, hd, by rw [h.reads a (reads_capture_iff.mp ha)]⟩

theorem ReadsName.startless_gluedDigit : (gluedDigit letters).startless = true :=
  Bool.and_eq_true_iff.mpr ⟨h.startless, rfl⟩

/-- The name is found only where no other letters stand between it and a digit. -/
theorem ReadsName.at?_eq_none {run rest : List Char} {c : Char} (hrun : run.any nonLetter = false)
    (hc : nonLetter c = true) (hother : ¬ (name = run ∧ isDigit c = true)) (before : List Char) :
    (gluedDigit letters).at? before (run ++ c :: rest) = none := by
  rw [Option.eq_none_iff_forall_ne_some]
  intro m hm
  obtain ⟨hbefore, hfinds⟩ := finds_of_at? hm
  obtain ⟨d, hd, htext⟩ := h.reads_gluedDigit hfinds.reads
  have hwhole := hfinds.whole
  rw [hbefore, htext, List.append_assoc, List.append_cancel_left_eq, List.append_assoc] at hwhole
  obtain ⟨hsame, rfl, -⟩ := append_cons_inj h.all_letters hrun (nonLetter_of_isDigit hd) hc hwhole
  exact hother ⟨hsame, hd⟩

theorem ReadsName.replaceFrom_append_cons {run rest : List Char} {c : Char}
    (hrun : run.any nonLetter = false) (hc : nonLetter c = true)
    (hother : ¬ (name <:+ run ∧ isDigit c = true)) (before : List Char) :
    (gluedDigit letters).replaceFrom restored before 0 (run ++ c :: rest) =
      run ++ c :: (gluedDigit letters).replaceFrom restored (c :: (run.reverse ++ before)) 0
        rest := by
  induction run generalizing before with
  | nil =>
      have hnone := @ReadsName.at?_eq_none _ _ h [] rest c rfl hc (fun hsame =>
        h.ne_nil hsame.1) before
      rw [List.nil_append] at hnone
      rw [List.nil_append, replaceFrom, hnone]
      rfl
  | cons e run ih =>
      have hnone := @ReadsName.at?_eq_none _ _ h (e :: run) rest c hrun hc (fun hsame =>
        hother ⟨hsame.1 ▸ List.suffix_rfl, hsame.2⟩) before
      have hnext := ih (Bool.or_eq_false_iff.mp hrun).2 (fun hsuffix =>
        hother ⟨hsuffix.1.trans (List.suffix_cons e run), hsuffix.2⟩) (e :: before)
      rw [List.cons_append] at hnone ⊢
      rw [replaceFrom, hnone, hnext, List.reverse_cons, List.append_assoc]
      rfl

/-- What is made of a text behind a digit. -/
def tailOf (letters : Pattern) (d : Char) (rest : List Char) : List Char :=
  (gluedDigit letters).replaceFrom restored [d] 0 rest

theorem ReadsName.replaceFrom_cons (d : Char) (before rest : List Char) :
    (gluedDigit letters).replaceFrom restored (d :: before) 0 rest = tailOf letters d rest :=
  @replaceFrom_behind _ before h.startless_gluedDigit _ (fun _ => rfl) [d] (List.cons_ne_nil d [])
    0 rest

theorem ReadsName.hyphenate_digit {run : List Char} {d : Char} (hrun : run.any nonLetter = false)
    (hd : isDigit d = true) (hother : ¬ name <:+ run) (rest : List Char) :
    hyphenate letters (run ++ d :: rest) = run ++ d :: tailOf letters d rest := by
  have hpass := @ReadsName.replaceFrom_append_cons _ _ h run rest d hrun (nonLetter_of_isDigit hd)
    (fun hsame => hother hsame.1) []
  rwa [h.replaceFrom_cons] at hpass

theorem ReadsName.hyphenate_hyphen {run : List Char} {d : Char} (hrun : run.any nonLetter = false)
    (hd : isDigit d = true) (rest : List Char) :
    hyphenate letters (run ++ '-' :: d :: rest) = run ++ '-' :: d :: tailOf letters d rest := by
  have hpass := @ReadsName.replaceFrom_append_cons _ _ h run (d :: rest) '-' hrun (by decide)
    (fun hsame => absurd hsame.2 (by decide)) []
  have hnext := @ReadsName.replaceFrom_append_cons _ _ h [] rest d rfl (nonLetter_of_isDigit hd)
    (fun hsame => h.ne_nil (List.suffix_nil.mp hsame.1)) ('-' :: (run.reverse ++ []))
  rw [List.reverse_nil, List.nil_append, List.nil_append, List.nil_append,
    h.replaceFrom_cons d] at hnext
  rwa [hnext] at hpass

theorem ReadsName.hyphenate_name {d : Char} (hd : isDigit d = true) (rest : List Char) :
    hyphenate letters (name ++ d :: rest) = name ++ '-' :: d :: tailOf letters d rest := by
  have hat := h.found d rest hd
  obtain ⟨c, name', rfl⟩ := List.exists_cons_of_ne_nil h.ne_nil
  have hrestored : restored ⟨[], c :: name' ++ [d], rest,
      [⟨2, d :: rest, rest⟩, ⟨1, c :: name' ++ d :: rest, d :: rest⟩]⟩ =
        c :: name' ++ ['-', d] := by
    have hone : Capture.text ⟨1, c :: name' ++ d :: rest, d :: rest⟩ = c :: name' :=
      Capture.text_mk 1 (c :: name') (d :: rest)
    have htwo : Capture.text ⟨2, d :: rest, rest⟩ = [d] := Capture.text_mk 2 [d] rest
    rw [restored, Found.capture_cons, Found.capture_cons, Found.capture_cons,
      if_neg (by simp), if_pos rfl, if_pos rfl, hone, htwo]
  have hdrop := @replaceFrom_length (gluedDigit letters) restored (name' ++ [d]) [c] rest
  rw [List.append_assoc, List.reverse_append] at hdrop
  rw [hyphenate, replaceAll, List.cons_append, replaceFrom, ← List.cons_append, hat]
  dsimp only
  rw [if_neg (by simp), hrestored]
  have hlength : (c :: name' ++ [d]).length - 1 = (name' ++ [d]).length := rfl
  rw [hlength]
  have htail := hdrop.trans (h.replaceFrom_cons d (name'.reverse ++ [c]) rest)
  rw [List.singleton_append] at htail
  rw [htail]
  simp

theorem ReadsName.lead_hyphenate (cs : List Char) : lead (hyphenate letters cs) = lead cs := by
  have hcons {c : Char} {cs ds : List Char} (h : lead cs = lead ds) :
      lead (c :: cs) = lead (c :: ds) := by
    unfold lead at h ⊢
    rw [List.map_cons, List.map_cons, List.takeWhile_cons, List.takeWhile_cons, h]
  have hname {c : Char} (hc : nonLetter c = true) (rest : List Char) :
      lead (name ++ c :: rest) = name.map caseClass := by
    have hstop : (c :: rest).head?.all nonLetter = true := hc
    rw [lead_append (Or.inr hstop), lead_of_letters h.all_letters]
  have hfrom (before : List Char) :
      lead ((gluedDigit letters).replaceFrom restored before 0 cs) = lead cs := by
    induction cs generalizing before with
    | nil => rfl
    | cons c cs ih =>
        rw [replaceFrom]
        split
        · rename_i m hat
          split
          · exact hcons (ih (c :: before))
          · obtain ⟨hbefore, hfinds⟩ := finds_of_at? hat
            obtain ⟨d, hd, htext⟩ := h.reads_gluedDigit hfinds.reads
            have hone : (gluedDigit letters).captured.filter (·.1 == 1) = [(1, letters)] := by
              change (((1, letters) :: letters.captured) ++ [(2, digit)]).filter _ = _
              rw [h.captured]
              rfl
            have hread : letters.Reads (m.capture 1) :=
              hfinds.reads_capture (List.mem_append_left _ List.mem_cons_self) hone
            have hcapture : m.capture 1 = name := h.reads _ hread
            have hwhole := hfinds.whole
            rw [hbefore, htext, List.append_assoc, List.append_cancel_left_eq, List.append_assoc,
              List.singleton_append] at hwhole
            rw [restored, hcapture, List.append_assoc, List.cons_append, hname (by decide),
              ← hwhole, hname (nonLetter_of_isDigit hd)]
        · exact hcons (ih (c :: before))
  exact hfrom []

end Hyphenate

/-! ### The families with a hyphen -/

/-- The families whose hyphen the catalog always writes. -/
def hyphenated : List String := ["SOT", "SOD", "TO"]

theorem readsName_sot : ReadsName (exact "SOT") "SOT".toList :=
  readsName_exact (by decide +kernel) rfl rfl

theorem readsName_sod : ReadsName (exact "SOD") "SOD".toList :=
  readsName_exact (by decide +kernel) rfl rfl

theorem readsName_to : ReadsName (edge ++ exact "TO") "TO".toList :=
  readsName_edge (by decide +kernel) rfl rfl

section Canonical

variable {letters : List Char} {c d : Char}

/-- With the letters of these families the hyphen makes no difference. -/
theorem canonical_respelled
    (h : ∃ name ∈ hyphenated, letters.map caseClass = name.toList.map caseClass)
    (hd : isDigit d = true) (rest : List Char) :
    canonical (letters ++ d :: rest) = canonical (letters ++ '-' :: d :: rest) := by
  obtain ⟨name, hname, hclass⟩ := h
  have hupper : upper letters = name.toList := by
    have hall : (hyphenated.all fun name => name.toList.all hyphenLetters.contains) = true := by
      decide +kernel
    have hspelled := List.all_eq_true.mp (List.all_eq_true.mp hall name hname)
    exact upper_of_map_eq (fun c hc => List.contains_iff_mem.mp (hspelled c hc)) hclass
  have hrun : name.toList.any nonLetter = false := by
    have hall : ∀ name ∈ hyphenated, name.toList.any nonLetter = false := by decide +kernel
    exact hall name hname
  rw [canonical_eq, canonical_eq, upper_append_cons (upperChar_of_isDigit hd),
    upper_append_cons (by decide), upper_cons (upperChar_of_isDigit hd), hupper,
    readsName_sot.hyphenate_hyphen hrun hd]
  simp only [hyphenated, List.mem_cons, List.not_mem_nil, or_false] at hname
  rcases hname with rfl | rfl | rfl
  · rw [readsName_sot.hyphenate_name hd]
  · rw [readsName_sot.hyphenate_digit hrun hd (by decide), readsName_sod.hyphenate_name hd,
      readsName_sod.hyphenate_hyphen hrun hd]
  · rw [readsName_sot.hyphenate_digit hrun hd (by decide),
      readsName_sod.hyphenate_digit hrun hd (by decide), readsName_to.hyphenate_name hd,
      readsName_sod.hyphenate_hyphen hrun hd, readsName_to.hyphenate_hyphen hrun hd]

/-- With all other letters what stands behind them is left as it is. -/
theorem canonical_append_digit (hletters : letters.any nonLetter = false)
    (hother : ∀ name ∈ hyphenated, ¬ name.toList.map caseClass <:+ letters.map caseClass)
    (hd : isDigit d = true) (rest : List Char) :
    ∃ tail, canonical (letters ++ d :: rest) = upper letters ++ d :: tail := by
  have hrun := any_nonLetter_upper hletters
  have hsuffix {name : String} (hname : name ∈ hyphenated) : ¬ name.toList <:+ upper letters := by
    intro hsuffix
    refine hother name hname ?_
    rw [← map_caseClass_upper hletters]
    exact hsuffix.map caseClass
  rw [canonical_eq, upper_append_cons (upperChar_of_isDigit hd),
    readsName_sot.hyphenate_digit hrun hd (hsuffix (by decide)),
    readsName_sod.hyphenate_digit hrun hd (hsuffix (by decide)),
    readsName_to.hyphenate_digit hrun hd (hsuffix (by decide))]
  exact ⟨_, rfl⟩

theorem canonical_append_hyphen (hletters : letters.any nonLetter = false)
    (hd : isDigit d = true) (rest : List Char) :
    ∃ tail, canonical (letters ++ '-' :: d :: rest) = upper letters ++ '-' :: tail := by
  have hrun := any_nonLetter_upper hletters
  rw [canonical_eq, upper_append_cons (by decide), upper_cons (upperChar_of_isDigit hd),
    readsName_sot.hyphenate_hyphen hrun hd, readsName_sod.hyphenate_hyphen hrun hd,
    readsName_to.hyphenate_hyphen hrun hd]
  exact ⟨_, rfl⟩

theorem lead_canonical (cs : List Char) : lead (canonical cs) = lead (upper cs) := by
  rw [canonical_eq, readsName_to.lead_hyphenate, readsName_sod.lead_hyphenate,
    readsName_sot.lead_hyphenate]

theorem lead_canonical_of_letters (hletters : letters.any nonLetter = false) :
    lead (canonical letters) = lead letters := by
  rw [lead_canonical, lead_of_letters (any_nonLetter_upper hletters),
    map_caseClass_upper hletters, lead_of_letters hletters]

theorem lead_canonical_append_cons (hletters : letters.any nonLetter = false)
    (hc : nonLetter c = true) (hupper : upperChar c = [c]) (rest : List Char) :
    lead (canonical (letters ++ c :: rest)) = lead (letters ++ c :: rest) := by
  have hstop (rest : List Char) : (c :: rest).head?.all nonLetter = true := hc
  rw [lead_canonical, upper_append_cons hupper, lead_append (Or.inr (hstop _)),
    lead_append (Or.inr (hstop _)), lead_of_letters (any_nonLetter_upper hletters),
    map_caseClass_upper hletters, lead_of_letters hletters]

end Canonical

end PackageHit

end PartSearch
