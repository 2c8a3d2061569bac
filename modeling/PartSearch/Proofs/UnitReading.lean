import PartSearch.Proofs.NumberText
import PartSearch.Proofs.PatternChoice
import PartSearch.Quantity.Scalar

/-!
# Numbers with a unit

The readers of single quantities look for their patterns anywhere in a text. Given a number and a
unit in its usual spelling, they come upon the number at once, pass over the units that are tried
before, and put the number to the scale of the unit.
-/

namespace PartSearch.ScalarFormat

open Text (Pattern Found Capture)
open Text.Pattern
open Number (ofText? finite? tenTo whole)

/-! ### Numbers in front of a text -/

section Numbers

variable {n u : List Char}

/-- Does a number in front of the text end there? -/
def endsNumber : List Char → Bool
  | [] => true
  | c :: _ => !(Text.isDigit c || c == '.') && !Text.isBlank c

theorem endsNumber_iff : endsNumber u = true ↔
    (u.head?.any fun c => Text.isDigit c || c == '.') = false ∧
      u.head?.any Text.isBlank = false := by
  cases u with
  | nil => simp [endsNumber]
  | cons c u => simp [endsNumber]

theorem blanks_takes (hu : endsNumber u = true) : blanks.Takes [] u [] :=
  .blanks (endsNumber_iff.mp hu).2

theorem numeral_takes (hn : IsNumber n) (hu : endsNumber u = true) : numeral.Takes n u [] :=
  .many1_one hn.ne_nil (hn.all rfl) (endsNumber_iff.mp hu).1

theorem digits_takes (hn : IsDigits n) (hu : endsNumber u = true) : digits.Takes n u [] := by
  refine .many1_one hn.ne_nil (hn.all rfl) ?_
  cases u with
  | nil => rfl
  | cons c u => exact (Bool.or_eq_false_iff.mp (endsNumber_iff.mp hu).1).1

theorem numeral_find? (hn : IsNumber n) (hu : endsNumber u = true) :
    ∃ m, (capture 1 numeral).find? (n ++ u) = some m ∧ m.capture 1 = n := by
  refine ⟨_, ((numeral_takes hn hu).capture 1).find?, ?_⟩
  rw [Found.capture_cons, if_pos rfl, Capture.text_mk]

theorem digits_find? (hn : IsDigits n) (hu : endsNumber u = true) :
    ∃ m, (capture 1 digits).find? (n ++ u) = some m ∧ m.capture 1 = n := by
  refine ⟨_, ((digits_takes hn hu).capture 1).find?, ?_⟩
  rw [Found.capture_cons, if_pos rfl, Capture.text_mk]

theorem before_find? (hn : IsNumber n) (hu : endsNumber u = true) {unit : Pattern}
    (hunit : unit.Takes u [] []) :
    ∃ m, (before unit).find? (n ++ u) = some m ∧ m.capture 1 = n := by
  have hnumber := ((numeral_takes hn hu).capture 1).seq_nil (blanks_takes hu)
  refine ⟨_, (hnumber.seq_last hunit).find?_self, ?_⟩
  change Found.capture ⟨_, _, _, ⟨1, n ++ u, u⟩ :: []⟩ 1 = n
  rw [Found.capture_cons, if_pos rfl, Capture.text_mk]

theorem withLetter_find? (hn : IsNumber n) {cls : Char → Bool} {letter : Option Char}
    (hletter : endsNumber letter.toList = true) (hcls : letter.all cls = true) :
    ∃ m, (withLetter (one cls) nothing).find? (n ++ letter.toList) = some m ∧
      m.capture 1 = n ∧ letterOf m 2 = letter := by
  have hnumber := ((numeral_takes hn hletter).capture 1).seq_nil (blanks_takes hletter)
  have hmaybe : (maybe (capture 2 (one cls))).Takes letter.toList []
      (letter.toList.map fun c => ⟨2, [c], []⟩) := by
    cases letter with
    | none => exact fun _ _ => rfl
    | some c => exact ((Takes.char hcls []).capture 2).first
  have hnothing : nothing.Takes [] [] [] := fun _ _ => rfl
  refine ⟨_, ((hnumber.seq_last hmaybe).seq_nil hnothing).find?_self, ?_⟩
  cases letter with
  | none => simp [letterOf, Found.capture, Found.capture?, Capture.text]
  | some c => simp [letterOf, Found.capture, Found.capture?, Capture.text]

end Numbers

/-! ### One pattern after another -/

section Readers

variable {n u : List Char} {x : Rat}

theorem readFirst?_of_find? {p : Pattern} {cs : List Char} {m : Found} (hfind : p.find? cs = some m)
    (hx : ofText? (m.capture 1) = some x) (scale : Rat → Rat)
    (rest : List (Pattern × (Rat → Rat))) :
    readFirst? ((p, scale) :: rest) cs = some (scale x) := by
  rw [readFirst?, hfind]
  simp only [hx, Option.bind_some]
  rfl

theorem readFirst?_before (hn : IsNumber n) (hx : ofText? n = some x) (hu : endsNumber u = true)
    {unit : Pattern} (hunit : unit.Takes u [] []) (scale : Rat → Rat)
    (rest : List (Pattern × (Rat → Rat))) :
    readFirst? ((before unit, scale) :: rest) (n ++ u) = some (scale x) := by
  obtain ⟨m, hfind, hcapture⟩ := before_find? hn hu hunit
  exact readFirst?_of_find? hfind (by rw [hcapture, hx]) scale rest

/-- A unit that the text does not have is passed over. -/
theorem readFirst?_absent {unit : Pattern} {cls : Char → Bool} (hneeds : unit.Needs cls)
    (hn : IsNumber n) (hfigures : ('.' :: figures).any cls = false)
    (hu : u.any cls = false) (scale : Rat → Rat) (rest : List (Pattern × (Rat → Rat))) :
    readFirst? ((before unit, scale) :: rest) (n ++ u) = readFirst? rest (n ++ u) := by
  have hcs : (n ++ u).any cls = false := by
    rw [List.any_append, hn.any_eq_false hfigures, hu, Bool.or_false]
  have hnone : (before unit).find? (n ++ u) = none := find?_eq_none hneeds.right hcs
  rw [readFirst?, hnone]

theorem mul_tenTo_neg (x : Rat) (k : Nat) : x * tenTo (-k) = x / tenTo k := by
  have hlarge : Decimal.toRat (Decimal.tenTo k) = ((10 ^ k : Nat) : Rat) := by
    simp [Decimal.toRat, Decimal.tenTo]
  have hsmall : Decimal.toRat (Decimal.tenTo (-k)) = 1 / ((10 ^ k : Nat) : Rat) := by
    cases k with
    | zero => decide +kernel
    | succ k =>
        have hsign : ¬(0 : Int) ≤ -((k + 1 : Nat) : Int) := by omega
        simp only [Decimal.toRat, Decimal.tenTo, if_neg hsign, Int.neg_neg, Int.toNat_natCast]
        rfl
  change x * Decimal.toRat (Decimal.tenTo (-k)) = x / Decimal.toRat (Decimal.tenTo k)
  rw [hlarge, hsmall, Rat.div_def, Rat.div_def, Rat.one_mul]

theorem mul_tenTo_zero (x : Rat) : x * tenTo 0 = x := by
  have hone : Decimal.toRat (Decimal.tenTo 0) = 1 := by decide +kernel
  change x * Decimal.toRat (Decimal.tenTo 0) = x
  rw [hone, Rat.mul_one]

theorem readVoltage?_kilovolt (hn : IsNumber n) (hx : ofText? n = some x) :
    readVoltage? (n ++ "kV".toList) = some (x * tenTo 3) :=
  readFirst?_before hn hx rfl (fun _ _ => rfl) _ _

theorem readVoltage?_volt (hn : IsNumber n) (hx : ofText? n = some x) :
    readVoltage? (n ++ "V".toList) = some x := by
  rw [readVoltage?,
    readFirst?_absent (needs_caseless "kV" 'k' (by decide)) hn rfl rfl,
    readFirst?_absent (needs_exact "mV" 'm' (by decide)) hn rfl rfl]
  exact readFirst?_before hn hx rfl (fun _ _ => rfl) _ _

theorem readCurrent?_microampere (hn : IsNumber n) (hx : ofText? n = some x) :
    readCurrent? (n ++ "uA".toList) = some (x * tenTo (-6)) := by
  rw [show x * tenTo (-6) = x / tenTo 6 from mul_tenTo_neg x 6]
  exact readFirst?_before hn hx rfl (fun _ _ => rfl) _ _

theorem readCurrent?_milliampere (hn : IsNumber n) (hx : ofText? n = some x) :
    readCurrent? (n ++ "mA".toList) = some (x * tenTo (-3)) := by
  rw [show x * tenTo (-3) = x / tenTo 3 from mul_tenTo_neg x 3, readCurrent?,
    readFirst?_absent (needs_caselessCharOf "u\u00b5").left hn rfl rfl,
    readFirst?_absent (needs_exact "nA" 'n' (by decide)) hn rfl rfl]
  exact readFirst?_before hn hx rfl (fun _ _ => rfl) _ _

theorem readCurrent?_ampere (hn : IsNumber n) (hx : ofText? n = some x) :
    readCurrent? (n ++ "A".toList) = some x := by
  rw [readCurrent?,
    readFirst?_absent (needs_caselessCharOf "u\u00b5").left hn rfl rfl,
    readFirst?_absent (needs_exact "nA" 'n' (by decide)) hn rfl rfl,
    readFirst?_absent (needs_caseless "mA" 'm' (by decide)) hn rfl rfl]
  exact readFirst?_before hn hx rfl (fun _ _ => rfl) _ _

theorem readPercentage?_percent (hn : IsNumber n) (hx : ofText? n = some x) :
    readPercentage? (n ++ "%".toList) = some x :=
  readFirst?_before hn hx rfl (fun _ _ => rfl) _ _

/-! ### Watts -/

theorem readPower?_unit (hn : IsNumber n) (hu : u.any "/".toList.contains = false) :
    (readPower? (n ++ u) : Option Rat) = readFirst? [(before (exact "mW"), (· / tenTo 3)),
      (before (caseless "kW"), (· * tenTo 3)), (before (caseless "W"), id)] (n ++ u) := by
  have hneeds : wattFraction.Needs "/".toList.contains :=
    (needs_charOf "/").right.left.left.left.left
  have hcs : (n ++ u).any "/".toList.contains = false := by
    rw [List.any_append, hn.any_eq_false rfl, hu, Bool.or_false]
  rw [readPower?, find?_eq_none hneeds hcs]

theorem readPower?_milliwatt (hn : IsNumber n) (hx : ofText? n = some x) :
    readPower? (n ++ "mW".toList) = some (x * tenTo (-3)) := by
  rw [show x * tenTo (-3) = x / tenTo 3 from mul_tenTo_neg x 3, readPower?_unit hn rfl]
  exact readFirst?_before hn hx rfl (fun _ _ => rfl) _ _

theorem readPower?_watt (hn : IsNumber n) (hx : ofText? n = some x) :
    readPower? (n ++ "W".toList) = some x := by
  rw [readPower?_unit hn rfl,
    readFirst?_absent (needs_exact "mW" 'm' (by decide)) hn rfl rfl,
    readFirst?_absent (needs_caseless "kW" 'k' (by decide)) hn rfl rfl]
  exact readFirst?_before hn hx rfl (fun _ _ => rfl) _ _

theorem wattFraction_find? {d : List Char} (hn : IsDigits n) (hd : IsDigits d) :
    ∃ m, wattFraction.find? (n ++ '/' :: d ++ ['W']) = some m ∧ m.capture 1 = n ∧
      m.capture 2 = d := by
  have hstroke : endsNumber ('/' :: (d ++ ['W'])) = true := rfl
  have hunit : endsNumber ['W'] = true := rfl
  have hdigit : (d ++ ['W']).head?.any Text.isBlank = false := by
    have hblank := hd.any_eq_false (show figures.any Text.isBlank = false from rfl)
    obtain ⟨c, rest, rfl⟩ := List.exists_cons_of_ne_nil hd.ne_nil
    exact (Bool.or_eq_false_iff.mp hblank).1
  have hnumerator := ((digits_takes hn hstroke).capture 1).seq_nil (blanks_takes hstroke)
  have hline := @Takes.seq _ (charOf "/") _ ['/'] _ _ _ hnumerator (.char rfl _)
  have hdenominator := (hline.seq_nil (.blanks hdigit)).seq ((digits_takes hd hunit).capture 2)
  have hwatt : (caseless "W").Takes ['W'] [] [] := fun _ _ => rfl
  have hfind := ((hdenominator.seq_nil (blanks_takes hunit)).seq_last hwatt).find?_self
  rw [← List.append_cons] at hfind
  refine ⟨_, hfind, ?_⟩
  simp [Found.capture_cons, Capture.text_mk]

theorem readPower?_fraction {d : List Char} {y : Rat} (hn : IsDigits n) (hx : ofText? n = some x)
    (hd : IsDigits d) (hy : ofText? d = some y) (hzero : (y == whole 0) = false) :
    readPower? (n ++ '/' :: d ++ ['W']) = some (x / y) := by
  obtain ⟨m, hfind, hnumerator, hdenominator⟩ := wattFraction_find? hn hd
  rw [readPower?, hfind]
  simp only [hnumerator, hdenominator, hx, hy, Option.bind_eq_bind, Option.bind_some, hzero]
  rfl

/-! ### Lengths and counts -/

theorem readMillimetres?_millimetre (hn : IsNumber n) (hx : ofText? n = some x) :
    readMillimetres? (n ++ "mm".toList) = some x := by
  have hunit : endsNumber "mm".toList = true := rfl
  obtain ⟨m, hfind, hcapture⟩ := numeral_find? hn hunit
  exact readFirst?_of_find? hfind (by rw [hcapture, hx]) _ _

theorem readInteger?_count (hn : IsDigits n) (hx : ofText? n = some x) :
    readInteger? (n ++ ['P']) = some x := by
  have hunit : endsNumber ['P'] = true := rfl
  obtain ⟨m, hfind, hcapture⟩ := digits_find? hn hunit
  exact readFirst?_of_find? hfind (by rw [hcapture, hx]) _ _

/-! ### Letters before a unit that is removed -/

theorem trim_eq_self {cs : List Char} (h : cs.any Text.isBlank = false) : Text.trim cs = cs := by
  have hkeep (cs : List Char) (h : cs.any Text.isBlank = false) :
      cs.dropWhile Text.isBlank = cs := by
    rw [List.dropWhile_eq_self_iff]
    intro hlength
    exact List.any_eq_false.mp h _ (List.getElem_mem hlength)
  rw [Text.trim, Text.trimStart, Text.trimEndOf, hkeep cs h, hkeep, List.reverse_reverse]
  rwa [List.any_reverse]

theorem any_isBlank_append (hn : IsNumber n) (hu : u.any Text.isBlank = false) :
    (n ++ u).any Text.isBlank = false := by
  rw [List.any_append, hn.any_eq_false (by decide), hu, Bool.or_false]

theorem removeAll_append {unit : Pattern} (hskips : ('.' :: figures).any unit.mayStart = false)
    (hn : IsNumber n) {rest : List Char}
    (hrest : ∀ before, unit.replaceFrom (fun _ => []) before 0 u = rest) :
    unit.removeAll (n ++ u) = n ++ rest := by
  rw [removeAll, replaceAll, replaceFrom_append (hn.any_eq_false hskips), hrest]

theorem readPrefixed?_unit (hn : IsNumber n) (hx : ofText? n = some x) {unit : Pattern}
    (hskips : ('.' :: figures).any unit.mayStart = false) (hblank : u.any Text.isBlank = false)
    (letter : Option Char) (hletter : endsNumber letter.toList = true)
    (hremoved : ∀ before, unit.replaceFrom (fun _ => []) before 0 u = letter.toList)
    (scale : Char → Option Rat) :
    readPrefixed? unit scale (n ++ u) = some (x * ((letter.bind scale).getD (whole 1))) := by
  have hcls : letter.all (fun c => !Text.isDigit c && !Text.isBlank c && c != '.') = true := by
    cases letter with
    | none => rfl
    | some c =>
        simp [endsNumber] at hletter
        simp [hletter]
  obtain ⟨m, hfind, hnumber, hfound⟩ := withLetter_find? hn hletter hcls
  rw [readPrefixed?, trim_eq_self (any_isBlank_append hn hblank),
    removeAll_append hskips hn hremoved, hfind]
  simp only [hnumber, hfound, hx, Option.bind_some]
  rfl

/-! ### Ohms -/

/-- Without a capital or small "r" only "0" is a jumper. -/
theorem isJumper_eq_decide {cs : List Char} (h : cs.any (·.toLower == 'r') = false) :
    isJumper cs = decide (cs = ['0']) := by
  have hlower : Text.asciiLower cs ≠ ['0', 'r'] := by
    intro heq
    have hmem : 'r' ∈ cs.map Char.toLower := by
      rw [← Text.asciiLower, heq]
      decide
    obtain ⟨c, hc, hr⟩ := List.mem_map.mp hmem
    exact List.any_eq_false.mp h c hc (beq_iff_eq.mpr hr)
  rw [isJumper, decide_eq_false hlower, Bool.false_or]

theorem readResistance?_eq (hn : IsNumber n) (hu : u.any Text.isBlank = false)
    {rest : List Char} (hrest : rest.any Text.isBlank = false)
    (hremoved : ∀ before, ohm.replaceFrom (fun _ => []) before 0 u = rest) {milli : Bool}
    (hmilli : ∀ before, (milliohm.findFrom? before u).isSome = milli) :
    (readResistance? (n ++ u) : Option Rat) =
      if milli then readMilliohms? (n ++ rest) else readBareResistance? (n ++ rest) := by
  have hoccurs : milliohm.occurs (n ++ u) = milli := by
    rw [occurs, find?, findFrom?_append (hn.any_eq_false rfl), hmilli]
  have hne : ¬(n ++ u).isEmpty = true := by
    rw [List.isEmpty_iff]
    exact List.append_ne_nil_of_left_ne_nil hn.ne_nil u
  rw [readResistance?, trim_eq_self (any_isBlank_append hn hu), if_neg hne, hoccurs,
    removeAll_append rfl hn hremoved, trim_eq_self (any_isBlank_append hn hrest)]

/-- A letter at the end is not one between digits. -/
theorem inlineLetter_find?_eq_none (hn : IsNumber n) (letter : Option Char) :
    inlineLetter.find? (n ++ letter.toList) = none := by
  rw [Option.eq_none_iff_forall_ne_some]
  intro m hm
  have hfinds := finds_of_find? hm
  obtain ⟨front, fraction, hfront, hfraction, htext⟩ := reads_append_iff.mp hfinds.reads
  obtain ⟨ds, sign, -, hsign, rfl⟩ := reads_append_iff.mp hfront
  obtain ⟨c, hc, rfl⟩ := reads_one_iff.mp (reads_capture_iff.mp hsign)
  have hne := (forall_of_reads_digits (reads_capture_iff.mp hfraction)).1
  have hmem : c ∉ n := by
    have hfigures := hn.any_eq_false (show ('.' :: figures).any (fun c =>
      "kmr".toList.any fun d => Text.caseClass c == Text.caseClass d) = false by decide)
    exact fun hmem => List.any_eq_false.mp hfigures c hmem hc
  -- The sign that was read is not in the number, so it is the letter, and no digit is behind it.
  have hlength := List.length_pos_iff.mpr hne
  have hletter : letter.toList.length ≤ 1 := by cases letter <;> simp
  have hwhole : (m.before.reverse ++ ds) ++ c :: (fraction ++ m.after) = n ++ letter.toList := by
    rw [← hfinds.whole, htext]
    simp
  rcases List.append_eq_append_iff.mp hwhole with ⟨rest, hrest, hbehind⟩ | ⟨rest, -, hbehind⟩
  · cases rest with
    | nil =>
        have hlengths := congrArg List.length hbehind
        simp at hlengths
        omega
    | cons d rest =>
        obtain ⟨rfl, -⟩ := List.cons.inj hbehind
        exact hmem (hrest ▸ by simp)
  · have hlengths := congrArg List.length hbehind
    simp at hlengths
    omega

theorem readMilliohms?_number (hn : IsNumber n) (hx : ofText? n = some x) :
    readMilliohms? (n ++ ['m']) = some (x / tenTo 3) := by
  have hlower : (n ++ ['m']).any (·.toLower == 'r') = false := by
    rw [List.any_append, hn.any_eq_false (by decide)]
    rfl
  have hjumper : n ++ ['m'] ≠ ['0'] := by
    intro heq
    have hmem : 'm' ∈ n ++ ['m'] := by simp
    rw [heq] at hmem
    exact absurd hmem (by decide)
  have hletter : endsNumber ['m'] = true := rfl
  obtain ⟨m, hfind, hcapture⟩ := numeral_find? hn hletter
  rw [readMilliohms?, isJumper_eq_decide hlower, decide_eq_false hjumper,
    if_neg Bool.false_ne_true]
  exact readFirst?_of_find? hfind (by rw [hcapture, hx]) _ _

theorem readBareResistance?_letter (hn : IsNumber n) (hx : ofText? n = some x)
    (letter : Option Char) (hends : endsNumber letter.toList = true)
    (hletter : letter.all "kKmM".toList.contains = true) :
    readBareResistance? (n ++ letter.toList) = some (resistanceScale letter x) := by
  have hlower : (n ++ letter.toList).any (·.toLower == 'r') = false := by
    rw [List.any_append, hn.any_eq_false (by decide), Bool.false_or]
    cases letter with
    | none => rfl
    | some c =>
        have htable : "kKmM".toList.any (·.toLower == 'r') = false := rfl
        simpa using List.any_eq_false.mp htable c (List.contains_iff_mem.mp hletter)
  rw [readBareResistance?, inlineLetter_find?_eq_none hn, isJumper_eq_decide hlower]
  -- A bare "0" is read as a jumper, which is the value it has as a number.
  by_cases hzero : n ++ letter.toList = ['0']
  · obtain rfl : letter = none := by
      have hlength := congrArg List.length hzero
      cases letter with
      | none => rfl
      | some c => exact absurd (by simpa using hlength) hn.ne_nil
    rw [Option.toList_none, List.append_nil] at hzero ⊢
    subst hzero
    obtain rfl : 0 = x := Option.some.inj hx
    decide +kernel
  · have hcls : letter.all "kKmMrR".toList.contains = true := by
      cases letter with
      | none => rfl
      | some c =>
          have htable : "kKmM".toList.all "kKmMrR".toList.contains = true := rfl
          exact List.all_eq_true.mp htable c (List.contains_iff_mem.mp hletter)
    obtain ⟨m, hfind, hnumber, hfound⟩ := withLetter_find? hn hends hcls
    rw [decide_eq_false hzero]
    simp only [charOf, hfind, hnumber, hfound, hx, Option.bind_some]
    rfl

theorem readResistance?_unit (hn : IsNumber n) (hx : ofText? n = some x)
    (hblank : u.any Text.isBlank = false) (letter : Option Char)
    (hends : endsNumber letter.toList = true) (hletter : letter.all "kKmM".toList.contains = true)
    (hremoved : ∀ before, ohm.replaceFrom (fun _ => []) before 0 u = letter.toList)
    (hmilli : ∀ before, (milliohm.findFrom? before u).isSome = false) :
    readResistance? (n ++ u) = some (resistanceScale letter x) := by
  have hrest : letter.toList.any Text.isBlank = false := by
    cases letter with
    | none => rfl
    | some c => simpa using (endsNumber_iff.mp hends).2
  rw [readResistance?_eq hn hblank hrest hremoved hmilli, if_neg Bool.false_ne_true]
  exact readBareResistance?_letter hn hx letter hends hletter

theorem readResistance?_kiloohm (hn : IsNumber n) (hx : ofText? n = some x) :
    readResistance? (n ++ "kOhm".toList) = some (x * tenTo 3) :=
  readResistance?_unit hn hx rfl (some 'k') rfl rfl (fun _ => rfl) fun _ => rfl

theorem readResistance?_megaohm (hn : IsNumber n) (hx : ofText? n = some x) :
    readResistance? (n ++ "MOhm".toList) = some (x * tenTo 6) :=
  readResistance?_unit hn hx rfl (some 'M') rfl rfl (fun _ => rfl) fun _ => rfl

theorem readResistance?_ohm (hn : IsNumber n) (hx : ofText? n = some x) :
    readResistance? (n ++ "Ohm".toList) = some x := by
  rw [readResistance?_unit hn hx rfl none rfl rfl (fun _ => rfl) fun _ => rfl]
  exact congrArg some (mul_tenTo_zero x)

theorem readResistance?_milliohm (hn : IsNumber n) (hx : ofText? n = some x) :
    readResistance? (n ++ "mOhm".toList) = some (x / tenTo 3) := by
  have hmilli : ∀ before, (milliohm.findFrom? before "mOhm".toList).isSome = true := fun _ => rfl
  have hremoved : ∀ before, ohm.replaceFrom (fun _ => []) before 0 "mOhm".toList = ['m'] :=
    fun _ => rfl
  rw [readResistance?_eq hn rfl rfl hremoved hmilli, if_pos rfl]
  exact readMilliohms?_number hn hx

theorem inlineLetter_find? {f : List Char} {c : Char} (hn : IsDigits n) (hf : IsDigits f)
    (hc : ("kmr".toList.any fun d => Text.caseClass c == Text.caseClass d) = true)
    (hends : endsNumber (c :: f) = true) :
    ∃ m, inlineLetter.find? (n ++ c :: f) = some m ∧ m.capture 1 = n ∧ letterOf m 2 = some c ∧
      m.capture 3 = f := by
  have hletter : (caselessCharOf "kmr").Takes [c] f [] := .char hc f
  have hend : endsNumber [] = true := rfl
  have hwhole := @Takes.seq _ _ _ [c] _ _ _ ((digits_takes hn hends).capture 1) (hletter.capture 2)
  have hfind := (hwhole.seq_last ((digits_takes hf hend).capture 3)).find?_self
  rw [← List.append_cons] at hfind
  refine ⟨_, hfind, ?_⟩
  simp [letterOf, Found.capture, Found.capture?, Capture.text]

theorem readResistance?_inline {f : List Char} {c : Char} (hn : IsDigits n) (hf : IsDigits f)
    (hx : ofText? (n ++ '.' :: f) = some x) (hc : "kMR".toList.contains c = true) :
    readResistance? (n ++ c :: f) = some (resistanceScale (some c) x) := by
  have hmem : c ∈ "kMR".toList := List.contains_iff_mem.mp hc
  have hany {cls : Char → Bool} (hfigures : figures.any cls = false)
      (hletters : "kMR".toList.any cls = false) : (n ++ c :: f).any cls = false := by
    rw [List.any_append, hn.any_eq_false hfigures, List.any_cons, hf.any_eq_false hfigures,
      Bool.eq_false_iff.mpr (List.any_eq_false.mp hletters c hmem)]
    rfl
  have hne : ¬(n ++ c :: f).isEmpty = true := by
    rw [List.isEmpty_iff]
    exact List.append_ne_nil_of_left_ne_nil hn.ne_nil _
  have hmilli : milliohm.occurs (n ++ c :: f) = false := by
    have hneeds : milliohm.Needs "m".toList.contains := (needs_charOf "m").left.left
    rw [occurs, find?_eq_none hneeds (hany rfl rfl)]
    rfl
  have htrim : Text.trim (n ++ c :: f) = n ++ c :: f := trim_eq_self (hany rfl rfl)
  have hcaseless : "kMR".toList.all (fun c =>
      "kmr".toList.any fun d => Text.caseClass c == Text.caseClass d) = true := rfl
  have hends : "kMR".toList.all (fun c => endsNumber [c]) = true := rfl
  obtain ⟨m, hfind, hwhole, hletter, hfraction⟩ := inlineLetter_find? hn hf
    (List.all_eq_true.mp hcaseless c hmem) (List.all_eq_true.mp hends c hmem)
  rw [readResistance?, htrim, if_neg hne, hmilli, removeAll_eq_self (hany rfl rfl), htrim,
    if_neg Bool.false_ne_true, readBareResistance?, hfind]
  simp only [hwhole, hfraction, hletter, hx, Option.bind_some]
  rfl

end Readers

end PartSearch.ScalarFormat
