import Mathlib.Algebra.Order.Field.Rat
import PartSearch.Proofs.AttributeNames
import PartSearch.Proofs.SeparatedTexts
import PartSearch.Proofs.UnitReading
import PartSearch.Proofs.WordOccurrences

/-!
# Values for a column and values of an attribute

A filter on an attribute with a numeric column has its value read twice: in the format of the column
when the stored number is compared, and in the format of the attribute everywhere else. The two
formats are the same but for the load capacitance, which the column takes in farads, and the forward
voltage, which the column does not cut off before its test current: `formats_eq`. For these, the
two readings are the same just for the texts in which the difference does not matter:
`column_reads_alike_iff`.
-/

namespace PartSearch

namespace ScalarFormat

open Text (Pattern Found Capture)
open Text.Pattern
open Number (ofText? finite? tenTo whole)

/-! ### The first number of a text -/

def isFigure (c : Char) : Bool := Text.isDigit c || c == '.'

/-- The first run of digits and points in a text, and what stands behind it and its blanks. -/
def firstNumber? (cs : List Char) : Option (List Char × List Char) :=
  match cs.dropWhile (!isFigure ·) with
  | [] => none
  | found => some (found.takeWhile isFigure, (found.dropWhile isFigure).dropWhile Text.isBlank)

section FirstNumber

variable {a : List Char}

/-- A letter of the class is read if there is one. -/
theorem takes_maybe_letter (cls : Char → Bool) (behind : List Char) :
    ∃ rest, behind = (behind.head?.filter cls).toList ++ rest ∧
      (maybe (capture 2 (one cls))).Takes (behind.head?.filter cls).toList rest
        ((behind.head?.filter cls).toList.map fun _ => ⟨2, behind, rest⟩) := by
  by_cases hletter : behind.head?.any cls = true
  · cases behind with
    | nil => cases hletter
    | cons c rest =>
        have hc : cls c = true := hletter
        have hread : (Option.filter cls (c :: rest).head?).toList = [c] := by simp [hc]
        rw [hread]
        exact ⟨rest, rfl, ((Takes.char hc rest).capture 2).first⟩
  · rw [Bool.not_eq_true] at hletter
    have hnone : Option.filter cls behind.head? = none := by
      cases behind with
      | nil => rfl
      | cons c rest =>
          have hc : cls c = false := hletter
          simp [hc]
    rw [hnone]
    refine ⟨behind, rfl, .maybe_absent fun before captures => ?_⟩
    rw [ends, ends_one_eq_nil hletter, List.map_nil]

/-- The number is captured, and so is a letter of the class right behind it and its blanks. -/
theorem takes_withLetter (cls : Char → Bool) {gap behind : List Char} (hne : a ≠ [])
    (hread : a.all isFigure = true) (hstop : (gap ++ behind).head?.any isFigure = false)
    (hgap : gap.all Text.isBlank = true) (hbehind : behind.head?.any Text.isBlank = false) :
    ∃ read rest noted, a ++ (gap ++ behind) = read ++ rest ∧
      (withLetter (one cls) nothing).Takes read rest noted ∧
      ∀ before, Found.capture ⟨before, read, rest, noted⟩ 1 = a ∧
        letterOf ⟨before, read, rest, noted⟩ 2 = behind.head?.filter cls := by
  obtain ⟨rest, hsplit, hmaybe⟩ := takes_maybe_letter cls behind
  have hnumeral : numeral.Takes a (gap ++ behind) [] := .many1_one hne hread hstop
  have hblanks : blanks.Takes gap behind [] := .many_one hgap hbehind
  have hfront := (hnumeral.capture 1).seq hblanks
  generalize behind.head?.filter cls = letter at hsplit hmaybe ⊢
  rw [hsplit] at hfront
  refine ⟨_, rest, _, ?_, (hfront.seq hmaybe).seq_nil (.nothing rest), fun before => ?_⟩
  · simpa using hsplit
  · cases letter with
    | none => simp [letterOf, Found.capture, Found.capture?, Capture.text]
    | some c =>
        obtain rfl : behind = c :: rest := hsplit
        simp [letterOf, Found.capture, Found.capture?, Capture.text]

/-- The pattern comes upon the first number, and upon the letter behind it if it is of the class. -/
theorem find?_withLetter (cls : Char → Bool) (cs : List Char) :
    ((withLetter (one cls) nothing).find? cs).map (fun m => (m.capture 1, letterOf m 2)) =
      (firstNumber? cs).map fun (n, behind) => (n, behind.head?.filter cls) := by
  have hskip :
      (cs.takeWhile (!isFigure ·)).any (withLetter (one cls) nothing).mayStart = false := by
    refine List.any_eq_false.mpr fun c hc => ?_
    have hfigure := List.mem_takeWhile_imp hc
    rw [Bool.not_eq_true'] at hfigure
    rw [Bool.not_eq_true]
    exact hfigure
  have hfind : (withLetter (one cls) nothing).find? cs =
      (withLetter (one cls) nothing).findFrom? (cs.takeWhile (!isFigure ·)).reverse
        (cs.dropWhile (!isFigure ·)) := by
    have happend := findFrom?_append hskip [] (cs.dropWhile (!isFigure ·))
    rwa [List.takeWhile_append_dropWhile, List.append_nil] at happend
  have hhead := head?_dropWhile_eq_false (!isFigure ·) cs
  rw [hfind, firstNumber?]
  cases hfound : cs.dropWhile (!isFigure ·) with
  | nil => rfl
  | cons c found =>
      have hc : isFigure c = true := by simpa [hfound] using hhead
      have hstop := head?_dropWhile_eq_false isFigure (c :: found)
      have hbehind := head?_dropWhile_eq_false Text.isBlank ((c :: found).dropWhile isFigure)
      rw [← List.takeWhile_append_dropWhile (p := Text.isBlank)
        (l := (c :: found).dropWhile isFigure)] at hstop
      obtain ⟨read, rest, noted, hsplit, htakes, hnoted⟩ := takes_withLetter cls
        (show (c :: found).takeWhile isFigure ≠ [] by simp [hc]) List.all_takeWhile hstop
        List.all_takeWhile hbehind
      rw [List.takeWhile_append_dropWhile, List.takeWhile_append_dropWhile] at hsplit
      have hfrom (before : List Char) :
          (withLetter (one cls) nothing).findFrom? before (c :: found) =
            some ⟨before, read, rest, noted⟩ := by rw [hsplit, htakes.findFrom?_eq]
      rw [hfrom, Option.map_some, Option.map_some]
      exact congrArg some (Prod.ext (hnoted _).1 (hnoted _).2)

theorem bind_withLetter {β : Type} (cls : Char → Bool) (cs : List Char)
    (f : List Char → Option Char → Option β) :
    ((withLetter (one cls) nothing).find? cs).bind (fun m => f (m.capture 1) (letterOf m 2)) =
      (firstNumber? cs).bind fun (n, behind) => f n (behind.head?.filter cls) := by
  have hfind := congrArg (Option.bind · fun (n, letter) => f n letter) (find?_withLetter cls cs)
  rw [Option.bind_map, Option.bind_map] at hfind
  exact hfind

end FirstNumber

/-! ### Capacitances -/

section Capacitances

/-- The letters that the prefixes below one are written with. -/
def submultiples : List Char := "pPnNuU\u00b5\u03bcmM".toList

/-- A text without its unit, the farad. -/
def withoutFarad (cs : List Char) : List Char := (charOf "Ff").removeAll (Text.trim cs)

/-- The first number of the text is not zero and has the letter of a submultiple behind it. -/
def StatesSubmultiple (cs : List Char) : Prop :=
  ∃ n c behind x, firstNumber? (withoutFarad cs) = some (n, c :: behind) ∧
    c ∈ submultiples ∧ ofText? n = some (x : Rat) ∧ x ≠ 0

/-- What the letter behind a number makes of it where the unit is the farad. -/
def faradFactor (letter : Option Char) : Rat := (letter.bind smallPrefix).getD (whole 1)

/-- What the letter behind a number makes of it where the unit is the picofarad. -/
def picofaradFactor : Option Char → Rat
  | some 'n' => tenTo 3
  | some 'u' | some '\u00b5' | some '\u03bc' => tenTo 6
  | _ => tenTo 0

theorem bind_finite? (n : List Char) (factor : Rat) :
    ((ofText? n).bind fun x => finite? (x * factor)) = (ofText? n).map (· * factor) := by
  cases (ofText? n : Option Rat) <;> rfl

theorem mem_submultiples_of_smallPrefix {c : Char} (h : (smallPrefix c : Option Rat) ≠ none) :
    c ∈ submultiples := by
  unfold smallPrefix at h
  split at h <;> first | decide | exact absurd rfl h

/-- Every letter of a submultiple is one that may stand behind a number. -/
theorem filter_bind_smallPrefix (letter : Option Char) : (letter.filter fun c =>
    !Text.isDigit c && !Text.isBlank c && c != '.').bind smallPrefix =
      (letter.bind smallPrefix : Option Rat) := by
  have htable : submultiples.all (fun c =>
      !Text.isDigit c && !Text.isBlank c && c != '.') = true := rfl
  cases letter with
  | none => rfl
  | some c =>
      by_cases hclass : (!Text.isDigit c && !Text.isBlank c && c != '.') = true
      · rw [Option.filter, if_pos hclass]
      · have hprefix : (smallPrefix c : Option Rat) = none := by
          by_contra hprefix
          exact hclass (List.all_eq_true.mp htable c (mem_submultiples_of_smallPrefix hprefix))
        rw [Option.filter, if_neg hclass, Option.bind_none, Option.bind_some, hprefix]

theorem readCapacitance?_eq (cs : List Char) : (readCapacitance? cs : Option Rat) =
    (firstNumber? (withoutFarad cs)).bind fun (n, behind) =>
      (ofText? n).map (· * faradFactor behind.head?) := by
  refine (bind_withLetter _ (withoutFarad cs) fun n letter => (ofText? n).bind fun x : Rat =>
    finite? (x * (letter.bind smallPrefix).getD (whole 1))).trans ?_
  refine congrArg (Option.bind _) (funext fun (n, behind) => ?_)
  dsimp only
  rw [filter_bind_smallPrefix, bind_finite?, faradFactor]

/-- Letters that leave the number as it is need not be looked at. -/
theorem picofaradFactor_filter (letter : Option Char) :
    picofaradFactor (letter.filter "pnu\u00b5\u03bc".toList.contains) = picofaradFactor letter := by
  cases letter with
  | none => rfl
  | some c =>
      by_cases hc : "pnu\u00b5\u03bc".toList.contains c = true
      · rw [Option.filter, if_pos hc]
      · rw [Option.filter, if_neg hc]
        unfold picofaradFactor
        split <;> first | rfl | simp_all

theorem readPicofarads?_eq (cs : List Char) : (readPicofarads? cs : Option Rat) =
    (firstNumber? (withoutFarad cs)).bind fun (n, behind) =>
      (ofText? n).map (· * picofaradFactor behind.head?) := by
  refine (bind_withLetter _ (withoutFarad cs) fun n letter => (ofText? n).bind fun x : Rat =>
    finite? <| match letter with
      | some 'n' => x * tenTo 3
      | some 'u' | some '\u00b5' | some '\u03bc' => x * tenTo 6
      | _ => x * tenTo 0).trans ?_
  refine congrArg (Option.bind _) (funext fun (n, behind) => ?_)
  have hscale (x : Rat) (letter : Option Char) : (match letter with
      | some 'n' => x * tenTo 3
      | some 'u' | some '\u00b5' | some '\u03bc' => x * tenTo 6
      | _ => x * tenTo 0) = x * picofaradFactor letter := by
    unfold picofaradFactor
    split <;> rfl
  simp only [hscale]
  rw [bind_finite?, picofaradFactor_filter]

theorem mem_submultiples_of_picofaradFactor {c : Char} (h : picofaradFactor (some c) ≠ tenTo 0) :
    c ∈ submultiples := by
  unfold picofaradFactor at h
  split at h <;> first | (rename_i hletter; cases hletter; decide) | exact absurd rfl h

theorem faradFactor_eq_iff (letter : Option Char) :
    faradFactor letter = picofaradFactor letter ↔ ∀ c ∈ letter, c ∉ submultiples := by
  cases letter with
  | none =>
      have hone : faradFactor none = picofaradFactor none := rfl
      simp [hone]
  | some c =>
      by_cases hc : c ∈ submultiples
      · have htable : submultiples.all (fun c =>
            faradFactor (some c) ≠ picofaradFactor (some c)) = true := by decide +kernel
        simpa [hc] using List.all_eq_true.mp htable c hc
      · have hfarad : faradFactor (some c) = whole 1 := by
          have hprefix : (smallPrefix c : Option Rat) = none :=
            not_not.mp fun hprefix => hc (mem_submultiples_of_smallPrefix hprefix)
          exact congrArg (Option.getD · (whole 1)) hprefix
        have hpicofarad : picofaradFactor (some c) = tenTo 0 :=
          not_not.mp fun hfactor => hc (mem_submultiples_of_picofaradFactor hfactor)
        have hone : (whole 1 : Rat) = tenTo 0 := rfl
        simpa [hc, hfarad, hpicofarad] using hone

theorem readCapacitance?_eq_readPicofarads?_iff (cs : List Char) :
    (readCapacitance? cs : Option Rat) = readPicofarads? cs ↔ ¬ StatesSubmultiple cs := by
  rw [readCapacitance?_eq, readPicofarads?_eq, StatesSubmultiple]
  cases hfirst : firstNumber? (withoutFarad cs) with
  | none => simp
  | some found =>
      obtain ⟨n, behind⟩ := found
      simp only [Option.bind_some, Option.some.injEq, Prod.mk.injEq]
      cases hx : (ofText? n : Option Rat) with
      | none =>
          refine iff_of_true rfl ?_
          rintro ⟨_, c, rest, y, ⟨rfl, rfl⟩, -, hy, -⟩
          rw [hx] at hy
          cases hy
      | some x =>
          rw [Option.map_some, Option.map_some, Option.some.injEq, mul_eq_mul_left_iff,
            faradFactor_eq_iff]
          constructor
          · rintro hfactors ⟨_, c, rest, y, ⟨rfl, rfl⟩, hc, hy, hzero⟩
            obtain rfl := Option.some.inj (hx.symm.trans hy)
            rcases hfactors with hletter | hx
            · exact hletter c rfl hc
            · exact hzero hx
          · intro hstates
            by_cases hzero : x = 0
            · exact Or.inr hzero
            · refine Or.inl fun c hc hmem => hstates ?_
              obtain ⟨rest, rfl⟩ := List.head?_eq_some_iff.mp hc
              exact ⟨n, c, rest, x, ⟨rfl, rfl⟩, hmem, hx, hzero⟩

end Capacitances

/-! ### Voltages -/

section Voltages

variable {ν : Type} [Number ν]

/-- The units of voltages, in the order in which they are tried. -/
def voltageUnits : List (Pattern × (ν → ν)) :=
  [(before (caseless "kV"), (· * tenTo 3)), (before (exact "mV"), (· / tenTo 3)),
    (before (caseless "V"), id)]

/-- What stands behind the first "@" of a text. -/
def behindAt (cs : List Char) : List Char := (cs.dropWhile (· != '@')).drop 1

/-- A unit behind the first "@" is tried before any in front of it, and what is read there is
something else. -/
def StatesOtherBehindAt (ν : Type) [Number ν] (cs : List Char) : Prop :=
  deciding (voltageUnits : List (Pattern × (ν → ν))) (behindAt cs) <
      deciding (voltageUnits : List (Pattern × (ν → ν))) (cs.takeWhile (· != '@')) ∧
    (readVoltage? (behindAt cs) : Option ν) ≠ readForwardVoltage? cs

theorem readVoltage?_separated (front back : List Char) :
    (readVoltage? (front ++ '@' :: back) : Option ν) =
      if deciding (voltageUnits : List (Pattern × (ν → ν))) front ≤
          deciding (voltageUnits : List (Pattern × (ν → ν))) back then readVoltage? front
        else readVoltage? back := by
  refine readFirst?_separated (List.forall_mem_cons.mpr ⟨?kilovolt, List.forall_mem_cons.mpr
    ⟨?millivolt, List.forall_mem_singleton.mpr ?volt⟩⟩) front back
  case kilovolt | millivolt | volt => rfl

/-- A voltage with a test current behind it is a voltage before one, unless the part behind states
another that comes first. -/
theorem readVoltage?_eq_readForwardVoltage?_iff (cs : List Char) :
    (readVoltage? cs : Option ν) = readForwardVoltage? cs ↔ ¬ StatesOtherBehindAt ν cs := by
  have hcs : cs = cs.takeWhile (· != '@') ++ cs.dropWhile (· != '@') :=
    List.takeWhile_append_dropWhile.symm
  have hhead := head?_dropWhile_eq_false (· != '@') cs
  rw [StatesOtherBehindAt, behindAt, readForwardVoltage?]
  cases hback : cs.dropWhile (· != '@') with
  | nil =>
      rw [hback, List.append_nil] at hcs
      rw [← hcs]
      refine iff_of_true rfl fun hstates => ?_
      have hlast : deciding (voltageUnits : List (Pattern × (ν → ν))) [] = 3 := rfl
      have hmost : deciding (voltageUnits : List (Pattern × (ν → ν))) cs ≤ 3 :=
        List.findIdx_le_length
      exact absurd (hlast ▸ hstates.1) (Nat.not_lt.mpr hmost)
  | cons c back =>
      obtain rfl : c = '@' := by simpa [hback] using hhead
      have hread := @readVoltage?_separated ν _ (cs.takeWhile (· != '@')) back
      rw [hback] at hcs
      rw [← hcs] at hread
      rw [hread, List.drop_one, List.tail_cons]
      split
      · rename_i hle
        exact iff_of_true rfl fun hstates => Nat.not_lt.mpr hle hstates.1
      · rename_i hlt
        rw [not_and, not_not]
        exact ⟨fun heq _ => heq, fun himp => himp (Nat.not_le.mp hlt)⟩

end Voltages

end ScalarFormat

namespace Attribute

open ScalarFormat (StatesSubmultiple StatesOtherBehindAt)

/-! ### The two formats of a name -/

/-- The names of the forward voltage, which may be stated with a test current. -/
def forwardNames : List String := ["Vf", "Voltage - Forward(Vf@If)"]

/-- The formats of the column and of the attribute that a name refers to. They are one format,
`own`, but for two attributes. -/
def formatsOf (name : String) (own : ScalarFormat) : ScalarFormat × AttributeFormat :=
  if name = "Load Capacitance" then (.capacitance, .scalar .picofarads)
  else if name ∈ forwardNames then (.voltage, .scalar .forwardVoltage)
  else (own, .scalar own)

section Formats

variable {name : String} {column : Column} {format : AttributeFormat}

theorem mem_columnNames (h : column? name = some column) :
    name ∈ columns.map (·.1) ++ aliases.flatMap fun entry => entry.1 :: entry.2 := by
  rcases catalogNames_cases name with hself | ⟨entry, hentry, hname, -⟩
  · rw [column?, hself] at h
    obtain ⟨own, hown, hlookup⟩ := List.exists_of_findSome?_eq_some h
    obtain rfl : own = name := by simpa using hown
    exact List.mem_append_left _ (List.mem_map.mpr ⟨_, mem_of_lookup hlookup, rfl⟩)
  · exact List.mem_append_right _ (List.mem_flatMap.mpr ⟨entry, hentry, hname⟩)

theorem formats_eq (hcolumn : column? name = some column)
    (hformat : formatOf? (name :: catalogNames name) = some format) :
    (column.format, format) = formatsOf name column.format := by
  have htable : ∀ name ∈ columns.map (·.1) ++ aliases.flatMap (fun entry => entry.1 :: entry.2),
      ∀ column ∈ column? name, ∀ format ∈ formatOf? (name :: catalogNames name),
        (column.format, format) = formatsOf name column.format := by
    decide +kernel
  exact htable name (mem_columnNames hcolumn) column hcolumn format hformat

/-- The value of a filter means the same to the column of an attribute and to everything else, but
for a load capacitance with a submultiple and a forward voltage with another voltage behind "@". -/
theorem column_reads_alike_iff (hcolumn : column? name = some column)
    (hformat : formatOf? (name :: catalogNames name) = some format) :
    (name ≠ "Load Capacitance" → name ∉ forwardNames → ∀ (ν : Type) [Number ν] (text : String),
      (column.format.read? text : Option ν) = format.readScalar? text) ∧
    ∀ text : String, (column.format.read? text : Option Rat) = format.readScalar? text ↔
      (name = "Load Capacitance" → ¬ StatesSubmultiple text.toList) ∧
        (name ∈ forwardNames → ¬ StatesOtherBehindAt Rat text.toList) := by
  have hformats := formats_eq hcolumn hformat
  unfold formatsOf at hformats
  split at hformats
  · rename_i hload
    obtain ⟨hfarads, rfl⟩ := Prod.mk.inj hformats
    have hforward : name ∉ forwardNames := hload ▸ by decide
    have halike (text : String) :=
      ScalarFormat.readCapacitance?_eq_readPicofarads?_iff text.toList
    refine ⟨fun hother => absurd hload hother, fun text => ?_⟩
    rw [hfarads]
    exact (halike text).trans ⟨fun h => ⟨fun _ => h, fun hname => absurd hname hforward⟩,
      fun h => h.1 hload⟩
  split at hformats
  · rename_i hload hforward
    obtain ⟨hvolts, rfl⟩ := Prod.mk.inj hformats
    have halike (text : String) :=
      @ScalarFormat.readVoltage?_eq_readForwardVoltage?_iff Rat _ text.toList
    refine ⟨fun _ hother => absurd hforward hother, fun text => ?_⟩
    rw [hvolts]
    exact (halike text).trans ⟨fun h => ⟨fun hname => absurd hname hload, fun _ => h⟩,
      fun h => h.2 hforward⟩
  · rename_i hload hforward
    obtain ⟨-, rfl⟩ := Prod.mk.inj hformats
    exact ⟨fun _ _ _ _ _ => rfl, fun text => iff_of_true rfl
      ⟨fun hname => absurd hname hload, fun hname => absurd hname hforward⟩⟩

end Formats

theorem column_reads_alike_vds :
    (column? "Vds" = some ⟨"vds_max_v", .voltage⟩ ∧
      formatOf? ("Vds" :: catalogNames "Vds") = some (.scalar .voltage)) ∧
    ∀ text : String, (ScalarFormat.voltage.read? text : Option Rat) =
      (AttributeFormat.scalar .voltage).readScalar? text := by
  have hcolumn : column? "Vds" = some ⟨"vds_max_v", .voltage⟩ := by decide
  have hformat : formatOf? ("Vds" :: catalogNames "Vds") = some (.scalar .voltage) := by decide
  exact ⟨⟨hcolumn, hformat⟩,
    (column_reads_alike_iff hcolumn hformat).1 (by decide) (by decide) Rat⟩

/-- The column takes picofarads for farads, and everything else takes them as they are. -/
theorem column_reads_loadCapacitance :
    column? "Load Capacitance" = some ⟨"load_capacitance_pf", .capacitance⟩ ∧
    formatOf? ("Load Capacitance" :: catalogNames "Load Capacitance") =
      some (.scalar .picofarads) ∧
    (ScalarFormat.capacitance.read? "12.5pF" : Option Rat) = some (1 / 80000000000) ∧
    ((AttributeFormat.scalar .picofarads).readScalar? "12.5pF" : Option Rat) = some (25 / 2) ∧
    (ScalarFormat.capacitance.read? "12.5pF" : Option Rat) ≠
      (AttributeFormat.scalar .picofarads).readScalar? "12.5pF" := by
  decide +kernel

-- A test voltage in millivolts is taken for the forward voltage.
example : (ScalarFormat.voltage.read? "1.1V@200mV" : Option Rat) = some (1 / 5) := by cbv

example : (ScalarFormat.forwardVoltage.read? "1.1V@200mV" : Option Rat) = some (11 / 10) := by cbv

end Attribute

end PartSearch
