import PartSearch.Proofs.WordOccurrences
import PartSearch.Reading.Model

/-!
# Names that texts start with

A text `Spells` a name if it starts with the characters of the name in any case, and the letters
that it starts with are those of the name: `Spells.lead_append`. A pattern is `Spelled` with some
names if every text that it reads spells one of them.
-/

namespace PartSearch.Text

/-- The letters that a text starts with, in the one case that stands for all. -/
def lead (cs : List Char) : List Char := (cs.map caseClass).takeWhile Char.isAlpha

def nonLetter (c : Char) : Bool := !(caseClass c).isAlpha

theorem lead_append {cs ds : List Char}
    (h : cs.any nonLetter = true ∨ ds.head?.all nonLetter = true) :
    lead (cs ++ ds) = lead cs := by
  unfold lead
  induction cs with
  | nil =>
      cases ds with
      | nil => rfl
      | cons d ds =>
          have hd : nonLetter d = true := by simpa using h
          have hd : (caseClass d).isAlpha = false := by simpa [nonLetter] using hd
          simp [hd]
  | cons c cs ih =>
      by_cases hc : (caseClass c).isAlpha = true
      · have hrest : cs.any nonLetter = true ∨ ds.head?.all nonLetter = true :=
          h.imp_left fun hany => by simpa [nonLetter, hc] using hany
        simpa [hc] using ih hrest
      · simp [hc]

theorem lead_of_letters {cs : List Char} (h : cs.any nonLetter = false) :
    lead cs = cs.map caseClass := by
  rw [lead, List.takeWhile_eq_self_iff]
  intro c hc
  obtain ⟨d, hd, rfl⟩ := List.mem_map.mp hc
  have hletter := List.any_eq_false.mp h d hd
  simpa [nonLetter] using hletter

/-- A text starts with the characters of a name, and with no letters beyond those of the name. -/
def Spells (name : String) (cs : List Char) : Prop :=
  ∃ front behind, cs = front ++ behind ∧
    front.map caseClass = name.toList.map caseClass ∧
    (name.toList.any nonLetter = true ∨ behind.head?.any nonLetter = true)

theorem spells_append {name : String} {letters hyphen behind : List Char}
    (hletters : letters.map caseClass = name.toList.map caseClass)
    (hhyphen : hyphen = [] ∨ hyphen = ['-']) (hbehind : behind.head?.any nonLetter = true) :
    Spells name (letters ++ (hyphen ++ behind)) := by
  refine ⟨letters, hyphen ++ behind, rfl, hletters, Or.inr ?_⟩
  rcases hhyphen with rfl | rfl
  · exact hbehind
  · exact (by decide : nonLetter '-' = true)

theorem lead_eq_of_map_eq {cs ds : List Char} (h : cs.map caseClass = ds.map caseClass) :
    lead cs = lead ds := by rw [lead, h, lead]

theorem any_nonLetter_of_map_eq {cs ds : List Char} (h : cs.map caseClass = ds.map caseClass) :
    cs.any nonLetter = ds.any nonLetter := by
  have hany (es : List Char) : es.any nonLetter = (es.map caseClass).any fun c => !c.isAlpha := by
    rw [List.any_map]
    rfl
  rw [hany, hany, h]

theorem Spells.lead_append {name : String} {cs : List Char} (h : Spells name cs)
    (rest : List Char) : lead (cs ++ rest) = lead name.toList := by
  obtain ⟨front, behind, rfl, hfront, hend⟩ := h
  rw [List.append_assoc, Text.lead_append, lead_eq_of_map_eq hfront]
  rcases hend with hname | hbehind
  · exact Or.inl (by rwa [any_nonLetter_of_map_eq hfront])
  · refine Or.inr ?_
    cases behind with
    | nil => cases hbehind
    | cons c behind => exact hbehind

theorem Spells.lead_eq {name : String} {cs : List Char} (h : Spells name cs) :
    lead cs = lead name.toList := by simpa using h.lead_append []

theorem Spells.exists_mem {name : String} {cs : List Char} (h : Spells name cs) {c : Char}
    (hc : c ∈ name.toList) : ∃ d ∈ cs, caseClass d = caseClass c := by
  obtain ⟨front, behind, rfl, hfront, -⟩ := h
  have hclass : caseClass c ∈ front.map caseClass := hfront ▸ List.mem_map_of_mem hc
  obtain ⟨d, hd, hclass⟩ := List.mem_map.mp hclass
  exact ⟨d, List.mem_append_left behind hd, hclass⟩

theorem Spells.exists_cons {name : String} {cs : List Char} (h : Spells name cs)
    (hname : name.toList.head?.any (· != '-') = true) : ∃ c rest, cs = c :: rest ∧ c ≠ '-' := by
  obtain ⟨front, behind, rfl, hfront, -⟩ := h
  generalize name.toList = letters at hfront hname
  cases letters with
  | nil => cases hname
  | cons d letters =>
      cases front with
      | nil => cases hfront
      | cons c front =>
          refine ⟨c, front ++ behind, rfl, ?_⟩
          rintro rfl
          have hclass : '-' = caseClass d := (List.cons.inj hfront).1
          rw [eq_hyphen_of_caseClass hclass.symm] at hname
          simp at hname

theorem Spells.any_nonLetter {name : String} {cs : List Char} (h : Spells name cs) :
    cs.any nonLetter = true := by
  obtain ⟨front, behind, rfl, hfront, hend⟩ := h
  rw [List.any_append, Bool.or_eq_true]
  rcases hend with hname | hbehind
  · exact Or.inl (by rwa [any_nonLetter_of_map_eq hfront])
  · cases behind with
    | nil => cases hbehind
    | cons c behind =>
        have hc : nonLetter c = true := hbehind
        exact Or.inr (by simp [hc])

namespace Pattern

/-- Every text that the pattern reads spells one of some names. -/
def Spelled (p : Pattern) (names : List String) : Prop :=
  ∀ read, p.Reads read → ∃ name ∈ names, Spells name read

def StartsOther (p : Pattern) : Prop := ∀ read, p.Reads read → read.head?.any nonLetter = true

section Spelled

variable {p q : Pattern} {names : List String} {name : String}

/-- Characters are told apart by `f` only. -/
theorem reads_foldr_iff (f : Char → Char) {cs read : List Char} :
    (cs.foldr (fun c p => one (fun d => f d == f c) ++ p) nothing).Reads read ↔
      read.map f = cs.map f := by
  induction cs generalizing read with
  | nil =>
      rw [List.foldr_nil, List.map_nil, List.map_eq_nil_iff]
      constructor
      · rintro ⟨⟩
        rfl
      · rintro rfl
        exact .nothing
  | cons c cs ih =>
      rw [List.foldr_cons, reads_append_iff, List.map_cons]
      constructor
      · rintro ⟨a, b, ha, hb, rfl⟩
        obtain ⟨d, hd, rfl⟩ := reads_one_iff.mp ha
        rw [List.singleton_append, List.map_cons, ih.mp hb, eq_of_beq hd]
      · intro h
        cases read with
        | nil => cases h
        | cons d read =>
            obtain ⟨hd, hrest⟩ := List.cons.inj h
            exact ⟨[d], read, .one (beq_iff_eq.mpr hd), ih.mpr hrest, rfl⟩

theorem reads_caseless_iff {text : String} {read : List Char} :
    (caseless text).Reads read ↔ read.map caseClass = text.toList.map caseClass :=
  reads_foldr_iff caseClass

theorem reads_exact_iff {text : String} {read : List Char} :
    (exact text).Reads read ↔ read = text.toList := by
  have hread : (exact text).Reads read ↔ read.map id = text.toList.map id := reads_foldr_iff id
  rwa [List.map_id, List.map_id] at hread

theorem Spelled.append (h : p.Spelled names) : (p ++ q).Spelled names := by
  intro read hread
  obtain ⟨a, b, ha, -, rfl⟩ := reads_append_iff.mp hread
  obtain ⟨name, hname, front, behind, rfl, hfront, hend⟩ := h a ha
  refine ⟨name, hname, front, behind ++ b, List.append_assoc _ _ _, hfront, hend.imp_right ?_⟩
  intro hbehind
  cases behind with
  | nil => cases hbehind
  | cons c behind => exact hbehind

theorem reads_anyOf_iff {ps : List Pattern} {read : List Char} :
    (anyOf ps).Reads read ↔ ∃ p ∈ ps, p.Reads read := by
  induction ps with
  | nil =>
      rw [anyOf, never, reads_one_iff]
      simp
  | cons p ps ih =>
      cases ps with
      | nil => simp [anyOf]
      | cons q ps =>
          change (either p (anyOf (q :: ps))).Reads read ↔ _
          rw [reads_either_iff, ih]
          simp

theorem spelled_anyOf {ps : List Pattern} (h : ∀ p ∈ ps, p.Spelled names) :
    (anyOf ps).Spelled names := by
  intro read hread
  obtain ⟨p, hp, hread⟩ := reads_anyOf_iff.mp hread
  exact h p hp read hread

/-- A name that does not only have letters is spelled whatever follows. -/
theorem spelled_caseless (hmem : name ∈ names) (hname : name.toList.any nonLetter = true) :
    (caseless name).Spelled names := by
  intro read hread
  exact ⟨name, hmem, read, [], (List.append_nil read).symm, reads_caseless_iff.mp hread,
    Or.inl hname⟩

theorem spelled_caseless_append (hmem : name ∈ names) (hq : q.StartsOther) :
    (caseless name ++ q).Spelled names := by
  intro read hread
  obtain ⟨a, b, ha, hb, rfl⟩ := reads_append_iff.mp hread
  exact ⟨name, hmem, a, b, rfl, reads_caseless_iff.mp ha, Or.inr (hq b hb)⟩

theorem spelled_maybe_append {first more : String} (hmem : first ∈ names)
    (hmem' : first ++ more ∈ names) (hq : q.StartsOther) :
    (caseless first ++ maybe (caseless more) ++ q).Spelled names := by
  intro read hread
  obtain ⟨ab, c, hab, hc, rfl⟩ := reads_append_iff.mp hread
  obtain ⟨a, b, ha, hb, rfl⟩ := reads_append_iff.mp hab
  rw [reads_caseless_iff] at ha
  rcases reads_either_iff.mp hb with hmore | hnothing
  · rw [reads_caseless_iff] at hmore
    exact ⟨first ++ more, hmem', a ++ b, c, rfl, by simp [ha, hmore], Or.inr (hq c hc)⟩
  · cases hnothing
    exact ⟨first, hmem, a, c, by rw [List.append_nil], ha, Or.inr (hq c hc)⟩

theorem StartsOther.append (h : p.StartsOther) : (p ++ q).StartsOther := by
  intro read hread
  obtain ⟨a, b, ha, -, rfl⟩ := reads_append_iff.mp hread
  have hhead := h a ha
  cases a with
  | nil => cases hhead
  | cons c a => exact hhead

theorem startsOther_one {cls : Char → Bool} (h : ∀ c, cls c = true → nonLetter c = true) :
    (one cls).StartsOther := by
  intro read hread
  obtain ⟨c, hc, rfl⟩ := reads_one_iff.mp hread
  exact h c hc

theorem startsOther_digit : digit.StartsOther := by
  refine startsOther_one fun c hc => ?_
  rw [nonLetter, isAlpha_caseClass_of_isDigit hc]
  rfl

theorem startsOther_digits : digits.StartsOther := startsOther_digit.append

theorem startsOther_times (count : Nat) : (times (count + 1) digit).StartsOther :=
  startsOther_digit.append

theorem startsOther_timesUpTo (least more : Nat) :
    (timesUpTo (least + 1) more digit).StartsOther := (startsOther_times least).append

theorem startsOther_charOf {text : String} (h : text.toList.all nonLetter = true) :
    (charOf text).StartsOther :=
  startsOther_one fun c hc => List.all_eq_true.mp h c (List.contains_iff_mem.mp hc)

end Spelled

end Pattern

end PartSearch.Text

namespace PartSearch.Model

open Text Text.Pattern

/-! ### The families of vendors -/

/-- The shapes of part numbers but for the general one. -/
def vendorShapes : List Pattern := shapes.dropLast

/-- The names that the part numbers of the families start with. -/
def vendorNames : List String := [
  "ESP32", "STM32", "GD32", "CH32V", "RP2040", "RP2350", "ATMEGA", "ATTINY", "PIC", "NRF5",
  "CH340", "CH9102", "CP210", "TP", "AMS", "LM", "LMV", "NE555", "TL", "TPS", "AO", "SI", "IRF",
  "IRL", "IRLZ", "2N", "BC", "WS2812", "SK6812", "APA102", "TLC5940", "BME", "BMP", "MPU", "SHT",
  "AHT", "DS18B20", "INA", "AXP", "IP5306", "1N", "1SS", "BAT", "BAS", "BAV"]

theorem spelled_vendorShapes : ∀ p ∈ vendorShapes, p.Spelled vendorNames := by
  have hcaseless (name : String) (h : name ∈ vendorNames ∧ name.toList.any nonLetter = true) :
      (caseless name).Spelled vendorNames := spelled_caseless h.1 h.2
  have hnumbered (letters : String) (count : Nat) (h : letters ∈ vendorNames) :
      (numbered letters (count + 1)).Spelled vendorNames :=
    spelled_caseless_append h (startsOther_times count)
  have hdigits (letters : String) (h : letters ∈ vendorNames) :
      (caseless letters ++ digits).Spelled vendorNames :=
    spelled_caseless_append h startsOther_digits
  have hupTo (letters : String) (least more : Nat) (h : letters ∈ vendorNames) :
      (caseless letters ++ timesUpTo (least + 1) more digit).Spelled vendorNames :=
    spelled_caseless_append h (startsOther_timesUpTo least more)
  have hmaybe (letters more : String) (least limit : Nat)
      (h : letters ∈ vendorNames ∧ letters ++ more ∈ vendorNames) :
      (caseless letters ++ maybe (caseless more) ++
        timesUpTo (least + 1) limit digit).Spelled vendorNames :=
    spelled_maybe_append h.1 h.2 (startsOther_timesUpTo least limit)
  simp only [vendorShapes, shapes, List.dropLast, List.forall_mem_cons]
  refine ⟨(hcaseless "ESP32" (by decide +kernel)).append, ?_, ?_, ?_, ?_, ?_, ?_, ?_, by simp⟩
  all_goals
    refine spelled_anyOf ?_
    simp only [List.forall_mem_cons]
  · refine ⟨(hcaseless "STM32" ?_).append.append.append, (hcaseless "GD32" ?_).append.append.append,
      (hcaseless "CH32V" ?_).append.append, hcaseless "RP2040" ?_, (hcaseless "RP2350" ?_).append,
      (hdigits "ATMEGA" ?_).append, (hdigits "ATTINY" ?_).append, (hdigits "PIC" ?_).append,
      by simp⟩
    all_goals decide +kernel
  · refine ⟨(hnumbered "NRF5" 3 ?_).append, (hcaseless "CH340" ?_).append,
      (hcaseless "CH9102" ?_).append, (hnumbered "CP210" 0 ?_).append, by simp⟩
    all_goals decide +kernel
  · refine ⟨(spelled_caseless_append ?_ (startsOther_charOf ?_)).append, hnumbered "AMS" 3 ?_,
      hnumbered "LM" 3 ?_, hcaseless "NE555" ?_, hnumbered "TL" 2 ?_, hmaybe "LM" "V" 2 1 ?_,
      hupTo "TPS" 3 1 ?_, by simp⟩
    all_goals decide +kernel
  · refine ⟨hnumbered "AO" 3 ?_, hnumbered "SI" 3 ?_, hupTo "IRF" 2 1 ?_, hmaybe "IRL" "Z" 1 2 ?_,
      hnumbered "2N" 3 ?_, hnumbered "BC" 2 ?_, by simp⟩
    all_goals decide +kernel
  · refine ⟨(hcaseless "WS2812" ?_).append, hcaseless "SK6812" ?_, hcaseless "APA102" ?_,
      hcaseless "TLC5940" ?_, by simp⟩
    all_goals decide +kernel
  · refine ⟨hnumbered "BME" 2 ?_, hnumbered "BMP" 2 ?_, hnumbered "MPU" 3 ?_, hnumbered "SHT" 1 ?_,
      hnumbered "AHT" 1 ?_, hcaseless "DS18B20" ?_, hnumbered "INA" 2 ?_, hnumbered "AXP" 2 ?_,
      hcaseless "IP5306" ?_, by simp⟩
    all_goals decide +kernel
  · refine ⟨(hnumbered "1N" 3 ?_).append, (hnumbered "1SS" 2 ?_).append,
      (hnumbered "BAT" 1 ?_).append, (hnumbered "BAS" 1 ?_).append, (hnumbered "BAV" 1 ?_).append,
      by simp⟩
    all_goals decide +kernel

end PartSearch.Model
