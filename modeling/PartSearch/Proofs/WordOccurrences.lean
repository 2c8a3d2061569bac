import Mathlib.Data.List.TakeWhile
import PartSearch.Proofs.LetterCase
import PartSearch.Proofs.PatternChoice

/-!
# Occurrences between word boundaries

What `wordOf` finds starts at an edge: `starts_of_find?`. It finds a whole text that starts and ends
with word characters if that is the preferred reading: `Takes.find?_wordOf`. A class of characters
that may be repeated a bounded number of times takes as many as it can: `Takes.timesUpTo`.
-/

namespace PartSearch.Text

/-! ### Letters, digits and word characters -/

section Classes

variable {c : Char}

theorem toNat_of_isDigit (h : c.isDigit = true) : 48 ≤ c.toNat ∧ c.toNat ≤ 57 := by
  rw [Char.isDigit, Bool.and_eq_true, decide_eq_true_eq, decide_eq_true_eq] at h
  exact ⟨UInt32.le_iff_toNat_le.mp h.1, UInt32.le_iff_toNat_le.mp h.2⟩

theorem toNat_of_isAlpha (h : c.isAlpha = true) :
    65 ≤ c.toNat ∧ c.toNat ≤ 90 ∨ 97 ≤ c.toNat ∧ c.toNat ≤ 122 := by
  by_contra hcode
  rw [isAlpha_eq_false_iff.mpr (not_or.mp hcode)] at h
  cases h

theorem lt_of_isAlphanum (h : c.isAlphanum = true) : c.toNat < 128 := by
  rw [Char.isAlphanum, Bool.or_eq_true] at h
  rcases h with halpha | hdigit
  · have hcode := toNat_of_isAlpha halpha
    omega
  · have hcode := toNat_of_isDigit hdigit
    omega

theorem isWordChar_of_isAlphanum (h : c.isAlphanum = true) : isWordChar c = true := by
  have hascii : isAscii c = true := decide_eq_true (lt_of_isAlphanum h)
  rw [isWordChar, if_pos hascii, h, Bool.true_or]

/-- The characters whose class is not just their lowercase. -/
def signs : List Char := ['\u212a', '\u017f', '\u2126', '\u03a9', '\u00b5', '\u039c']

theorem sign_beyond_ascii (h : c ∈ signs) : 128 ≤ c.toNat ∧ caseClass c ≠ '-' ∧
    isWordChar c = true ∧ isDigit c = false := by
  have htable : (signs.all fun c =>
      128 ≤ c.toNat && caseClass c ≠ '-' && isWordChar c && !isDigit c) = true := by decide +kernel
  simpa [and_assoc] using List.all_eq_true.mp htable c h

theorem caseClass_eq_toLower (h : c ∉ signs) : caseClass c = c.toLower := by
  unfold caseClass
  split <;> simp_all [signs]

theorem caseClass_toUpper (c : Char) : caseClass c.toUpper = caseClass c := by
  have hcode := toNat_toUpper c
  by_cases hsmall : 97 ≤ c.toNat ∧ c.toNat ≤ 122
  · rw [if_pos hsmall] at hcode
    have hsign {d : Char} (hd : d.toNat < 128) : d ∉ signs := fun hmem =>
      Nat.not_le.mpr hd (sign_beyond_ascii hmem).1
    rw [caseClass_eq_toLower (hsign (by omega)), caseClass_eq_toLower (hsign (by omega)),
      ← Char.toNat_inj, toNat_toLower, toNat_toLower, hcode]
    split <;> split <;> omega
  · rw [if_neg hsmall] at hcode
    rw [Char.toNat_inj.mp hcode]

theorem eq_hyphen_of_caseClass (h : caseClass c = '-') : c = '-' := by
  by_cases hsign : c ∈ signs
  · exact absurd h (sign_beyond_ascii hsign).2.1
  · rw [caseClass_eq_toLower hsign] at h
    exact (toLower_eq_iff (by decide)).mp h

theorem isWordChar_of_isAlphanum_caseClass (h : (caseClass c).isAlphanum = true) :
    isWordChar c = true := by
  by_cases hsign : c ∈ signs
  · exact (sign_beyond_ascii hsign).2.2.1
  · rw [caseClass_eq_toLower hsign] at h
    cases halpha : c.isAlpha with
    | true => exact isWordChar_of_isAlphanum (by rw [Char.isAlphanum, halpha, Bool.true_or])
    | false =>
        rw [toLower_of_not_isAlpha halpha] at h
        exact isWordChar_of_isAlphanum h

/-- What is left of some runs of code points, in order, when others cover them one after another. -/
def uncovered (ranges others : List (Nat × Nat)) : List (Nat × Nat) :=
  others.foldl (fun left s => left.dropWhile fun r => s.1.ble r.1 && r.2.ble s.2) ranges

theorem inRanges_of_uncovered {ranges others : List (Nat × Nat)} (h : uncovered ranges others = [])
    (hin : inRanges ranges c = true) : inRanges others c = true := by
  induction others generalizing ranges with
  | nil =>
      rw [uncovered, List.foldl_nil] at h
      rw [h] at hin
      cases hin
  | cons s others ih =>
      rw [inRanges, ← List.takeWhile_append_dropWhile (p := fun r => s.1.ble r.1 && r.2.ble s.2)
        (l := ranges), List.any_append, Bool.or_eq_true] at hin
      rw [inRanges, List.any_cons, Bool.or_eq_true]
      rcases hin with hfront | hback
      · obtain ⟨r, hr, hin⟩ := List.any_eq_true.mp hfront
        have hcovers := List.mem_takeWhile_imp hr
        simp only [Bool.and_eq_true, decide_eq_true_eq, Nat.ble_eq] at hin hcovers ⊢
        exact Or.inl (by omega)
      · exact Or.inr (ih h hback)

theorem isWordChar_of_isDigit (h : isDigit c = true) : isWordChar c = true := by
  have htable : uncovered Table.digit Table.word = [] := by decide +kernel
  rw [isDigit] at h
  rw [isWordChar]
  split at h
  · rename_i hascii
    rw [if_pos hascii, Char.isAlphanum, h, Bool.or_true, Bool.true_or]
  · rename_i hwide
    rw [if_neg hwide]
    exact inRanges_of_uncovered htable h

/-- No decimal digit of any script counts as a letter. -/
theorem isAlpha_caseClass_of_isDigit (h : isDigit c = true) : (caseClass c).isAlpha = false := by
  have hsign : c ∉ signs := by
    intro hmem
    rw [(sign_beyond_ascii hmem).2.2.2] at h
    cases h
  have halpha : c.isAlpha = false := by
    rw [← Bool.not_eq_true]
    intro halpha
    have hascii : isAscii c = true :=
      decide_eq_true (lt_of_isAlphanum (by rw [Char.isAlphanum, halpha, Bool.true_or]))
    rw [isDigit, if_pos hascii] at h
    have hletter := toNat_of_isAlpha halpha
    have hcode := toNat_of_isDigit h
    omega
  rw [caseClass_eq_toLower hsign, toLower_of_not_isAlpha halpha, halpha]

theorem isDigit_eq_false_of_isAlpha (h : (caseClass c).isAlpha = true) : isDigit c = false := by
  rw [← Bool.not_eq_true]
  intro hdigit
  rw [isAlpha_caseClass_of_isDigit hdigit] at h
  cases h

end Classes

namespace Pattern

/-! ### Edges -/

section Edges

variable {p : Pattern} {cs : List Char} {m : Found}

theorem isEdge_of_at? {before after : List Char} (h : (wordOf p).at? before after = some m) :
    (Place.mk before after []).isEdge = true := by
  by_contra hedge
  have hends : (wordOf p).ends ⟨before, after, []⟩ = [] := by
    change (((edge.ends _).flatMap p.ends).flatMap edge.ends) = []
    rw [ends, if_neg hedge, List.flatMap_nil, List.flatMap_nil]
  rw [at?, hends] at h
  cases h

theorem reads_of_wordOf {read : List Char} (h : (wordOf p).Reads read) : p.Reads read := by
  obtain ⟨a, b, hp, hedge, rfl⟩ := reads_append_iff.mp h
  cases hedge
  obtain ⟨a, b, hedge, hp, rfl⟩ := reads_append_iff.mp hp
  cases hedge
  rwa [List.nil_append, List.append_nil]

theorem starts_of_findFrom? {before : List Char} (h : (wordOf p).findFrom? before cs = some m) :
    (Place.mk m.before (m.text ++ m.after) []).isEdge = true := by
  have hstart {before after : List Char} (hat : (wordOf p).at? before after = some m) :
      (Place.mk m.before (m.text ++ m.after) []).isEdge = true := by
    obtain ⟨hbefore, hfinds⟩ := finds_of_at? hat
    have hwhole := hfinds.whole
    rw [hbefore, List.append_assoc] at hwhole
    rw [hbefore, List.append_cancel_left hwhole]
    exact isEdge_of_at? hat
  induction cs generalizing before with
  | nil => exact hstart h
  | cons c cs ih =>
      rw [findFrom?] at h
      split at h
      · rename_i hat
        obtain rfl := Option.some.inj h
        exact hstart hat
      · exact ih h

/-- An occurrence between edges is a reading that starts at one. -/
theorem starts_of_find? (h : (wordOf p).find? cs = some m) :
    p.Reads m.text ∧ cs = m.before.reverse ++ (m.text ++ m.after) ∧
      (Place.mk m.before (m.text ++ m.after) []).isEdge = true := by
  have hfinds := finds_of_find? h
  exact ⟨reads_of_wordOf hfinds.reads, by rw [← hfinds.whole, List.append_assoc],
    starts_of_findFrom? h⟩

/-- No edge lies between two word characters. -/
theorem eq_nil_or_of_isEdge {before after : List Char} {c : Char}
    (h : (Place.mk before (c :: after) []).isEdge = true) (hc : isWordChar c = true) :
    before = [] ∨ ∃ d rest, before = d :: rest ∧ isWordChar d = false := by
  cases before with
  | nil => exact Or.inl rfl
  | cons d rest =>
      refine Or.inr ⟨d, rest, rfl, ?_⟩
      simpa [Place.isEdge, hc] using h

theorem Takes.find?_wordOf {noted : List Capture} (h : p.Takes cs [] noted)
    (hstart : cs.head?.any isWordChar = true) (hend : cs.getLast?.any isWordChar = true) :
    (wordOf p).find? cs = some ⟨[], cs, [], noted⟩ := by
  have hfirst : (Place.mk [] cs []).isEdge = true := by
    cases cs with
    | nil => cases hstart
    | cons c cs =>
        have hc : isWordChar c = true := hstart
        simp [Place.isEdge, hc]
  have hlast : (Place.mk cs.reverse [] noted).isEdge = true := by
    rw [Place.isEdge, List.head?_reverse]
    cases hc : cs.getLast? with
    | none => simp [hc] at hend
    | some c =>
        rw [hc] at hend
        have hc : isWordChar c = true := hend
        simp [hc]
  have hends : ((wordOf p).ends ⟨[], cs, []⟩).head? = some ⟨cs.reverse, [], noted⟩ := by
    have hp := h [] []
    simp only [List.append_nil] at hp
    obtain ⟨more, hmore⟩ := List.head?_eq_some_iff.mp hp
    change (((edge.ends ⟨[], cs, []⟩).flatMap p.ends).flatMap edge.ends).head? = _
    rw [ends, if_pos hfirst, List.flatMap_singleton, hmore, List.flatMap_cons, ends, if_pos hlast]
    rfl
  have hat : (wordOf p).at? [] cs = some ⟨[], cs, [], noted⟩ := by
    rw [at?, hends]
    simp
  rw [Pattern.find?]
  cases cs with
  | nil => cases hstart
  | cons c cs => rw [findFrom?, hat]

end Edges

/-! ### Bounded repetitions -/

section Bounded

variable {cls : Char → Bool} {a rest : List Char}

theorem Takes.nothing (rest : List Char) : nothing.Takes [] rest [] := fun _ _ => rfl

theorem ends_one_eq_nil (hrest : rest.head?.any cls = false) (before : List Char)
    (captures : List Capture) : (one cls).ends ⟨before, rest, captures⟩ = [] := by
  cases rest with
  | nil => rfl
  | cons c rest =>
      have hc : cls c = false := hrest
      simp [ends, hc]

theorem ends_one_append_eq_nil {q : Pattern} (hrest : rest.head?.any cls = false)
    (before : List Char) (captures : List Capture) :
    (one cls ++ q).ends ⟨before, rest, captures⟩ = [] := by
  change ((one cls).ends _).flatMap q.ends = []
  rw [ends_one_eq_nil hrest, List.flatMap_nil]

theorem Takes.maybe_absent {p : Pattern}
    (h : ∀ before captures, p.ends ⟨before, rest, captures⟩ = []) :
    (maybe p).Takes [] rest [] := by
  intro before captures
  change (p.ends ⟨before, rest, captures⟩ ++ _).head? = _
  rw [h]
  rfl

theorem Takes.times (hread : a.all cls = true) (rest : List Char) :
    (times a.length (one cls)).Takes a rest [] := by
  induction a with
  | nil => exact .nothing rest
  | cons c a ih =>
      obtain ⟨hc, hread⟩ := Bool.and_eq_true_iff.mp hread
      exact (Takes.char hc (a ++ rest)).seq (ih hread)

theorem Takes.upTo {more : Nat} (hread : a.all cls = true) (hmost : a.length ≤ more)
    (hrest : a.length = more ∨ rest.head?.any cls = false) :
    (timesUpTo.upTo (one cls) more).Takes a rest [] := by
  induction more generalizing a with
  | zero =>
      obtain rfl := List.eq_nil_of_length_eq_zero (Nat.le_zero.mp hmost)
      exact .nothing rest
  | succ more ih =>
      cases a with
      | nil => exact .maybe_absent (ends_one_append_eq_nil (hrest.resolve_left (by simp)))
      | cons c a =>
          obtain ⟨hc, hread⟩ := Bool.and_eq_true_iff.mp hread
          rw [List.length_cons, Nat.add_right_cancel_iff] at hrest
          have hnext := ih hread (Nat.le_of_succ_le_succ hmost) hrest
          exact ((Takes.char hc (a ++ rest)).seq hnext).first

/-- As many characters of a class are taken as there are, if there are enough and not too many. -/
theorem Takes.timesUpTo {least more : Nat} (hread : a.all cls = true) (hleast : least ≤ a.length)
    (hmost : a.length ≤ least + more)
    (hrest : a.length = least + more ∨ rest.head?.any cls = false) :
    (timesUpTo least more (one cls)).Takes a rest [] := by
  have hfront : (a.take least).all cls = true :=
    List.all_eq_true.mpr fun c hc => List.all_eq_true.mp hread c (List.mem_of_mem_take hc)
  have hback : (a.drop least).all cls = true :=
    List.all_eq_true.mpr fun c hc => List.all_eq_true.mp hread c (List.mem_of_mem_drop hc)
  have htimes : (Pattern.times least (one cls)).Takes (a.take least) (a.drop least ++ rest) [] := by
    have htimes := Takes.times hfront (a.drop least ++ rest)
    rwa [List.length_take, Nat.min_eq_left hleast] at htimes
  have hupTo : (timesUpTo.upTo (one cls) more).Takes (a.drop least) rest [] :=
    Takes.upTo hback (by rw [List.length_drop]; omega)
      (hrest.imp_left fun hall => by rw [List.length_drop]; omega)
  have hboth := htimes.seq hupTo
  rwa [List.take_append_drop] at hboth

theorem length_of_reads_times {count : Nat} (h : (times count (one cls)).Reads a) :
    a.length = count ∧ a.all cls = true := by
  induction count generalizing a with
  | zero =>
      cases h
      exact ⟨rfl, rfl⟩
  | succ count ih =>
      obtain ⟨b, c, hb, hc, rfl⟩ := reads_append_iff.mp h
      obtain ⟨d, hd, rfl⟩ := reads_one_iff.mp hb
      obtain ⟨hlength, hall⟩ := ih hc
      exact ⟨by simp [hlength], by simp [hd, hall]⟩

theorem length_of_reads_upTo {more : Nat} (h : (timesUpTo.upTo (one cls) more).Reads a) :
    a.length ≤ more ∧ a.all cls = true := by
  induction more generalizing a with
  | zero =>
      cases h
      exact ⟨Nat.le_refl 0, rfl⟩
  | succ more ih =>
      rcases reads_either_iff.mp h with hone | hnothing
      · obtain ⟨b, c, hb, hc, rfl⟩ := reads_append_iff.mp hone
        obtain ⟨d, hd, rfl⟩ := reads_one_iff.mp hb
        obtain ⟨hlength, hall⟩ := ih hc
        exact ⟨by simpa using hlength, by simp [hd, hall]⟩
      · cases hnothing
        exact ⟨Nat.zero_le _, rfl⟩

theorem length_of_reads_timesUpTo {least more : Nat}
    (h : (Pattern.timesUpTo least more (one cls)).Reads a) :
    least ≤ a.length ∧ a.length ≤ least + more ∧ a.all cls = true := by
  obtain ⟨b, c, hb, hc, rfl⟩ := reads_append_iff.mp h
  obtain ⟨hb, hall⟩ := length_of_reads_times hb
  obtain ⟨hc, hall'⟩ := length_of_reads_upTo hc
  rw [List.length_append, hb]
  exact ⟨by omega, by omega, by rw [List.all_append, hall, hall']; rfl⟩

end Bounded

end Pattern

end PartSearch.Text
