import PartSearch.Proofs.SpanCutting
import PartSearch.Reading.Value

/-!
# Where the values of a text stand

A value is what a scanner says of one occurrence of its pattern, so it has a span in the text and
the text of that span. The values that `extract` keeps and the text that it hands on divide the text
between them: `extract_divides`.
-/

namespace PartSearch.SpecValue

open Text

variable {ν : Type} [Number ν]

/-! ### Values and occurrences -/

theorem scaled_eq_some {q : Quantity} {rule : Found → (ν → ν) × String} {m : Found}
    {v : SpecValue ν} (h : scaled q rule m = some v) :
    ∃ base, Number.ofText? (m.capture 1) = some base ∧
      v = make m q ((rule m).1 base) (m.capture 1 ++ (rule m).2.toList) := by
  obtain ⟨base, hbase, rfl⟩ := Option.map_eq_some_iff.mp h
  exact ⟨base, hbase, rfl⟩

theorem counted_eq_some {q : Quantity} {m : Found} {v : SpecValue ν} (h : counted q m = some v) :
    ∃ count, Number.ofText? (m.capture 1) = some count ∧
      v = make m q count (Number.plain count ++ ['P']) := by
  obtain ⟨count, hcount, rfl⟩ := Option.map_eq_some_iff.mp h
  exact ⟨count, hcount, rfl⟩

theorem inlineResistance_eq_some {m : Found} {v : SpecValue ν}
    (h : inlineResistanceScanner.read m = some v) :
    ∃ base, Number.ofText? (m.capture 1 ++ '.' :: m.capture 3) = some base ∧
      ∃ scale letter, (scale, letter) = (match letterOf m with
        | some 'K' => (base * Number.tenTo 3, 'k')
        | some 'M' => (base * Number.tenTo 6, 'M')
        | _ => (base, 'R')) ∧
      v = make m .resistance scale (m.capture 1 ++ letter :: m.capture 3) := by
  obtain ⟨base, hbase, rfl⟩ := Option.map_eq_some_iff.mp h
  exact ⟨base, hbase, _, _, rfl, rfl⟩

theorem powerFraction_eq_some {m : Found} {v : SpecValue ν}
    (h : powerFractionScanner.read m = some v) :
    ∃ numerator denominator : ν, Number.ofText? (m.capture 1) = some numerator ∧
      Number.ofText? (m.capture 2) = some denominator ∧
      (denominator == Number.whole 0) = false ∧
      v = make m .power (numerator / denominator)
        (m.capture 1 ++ '/' :: m.capture 2 ++ ['W']) := by
  obtain ⟨numerator, hnumerator, h⟩ := Option.bind_eq_some_iff.mp h
  obtain ⟨denominator, hdenominator, h⟩ := Option.bind_eq_some_iff.mp h
  split at h
  · cases h
  · rename_i hzero
    exact ⟨numerator, denominator, hnumerator, hdenominator, by simpa using hzero,
      (Option.some.inj h).symm⟩

theorem pitch_eq_some {m : Found} {v : SpecValue ν} (h : pitchScanner.read m = some v) :
    ∃ pitch : ν, Number.ofText? (m.capture 1) = some pitch ∧
      v = make m .pitch pitch (m.capture 1 ++ "mm".toList) := by
  obtain ⟨pitch, hpitch, h⟩ := Option.bind_eq_some_iff.mp h
  split at h
  · exact ⟨pitch, hpitch, (Option.some.inj h).symm⟩
  · cases h

/-- Whatever a scanner reads, it keeps the text of the occurrence. -/
theorem raw_of_read {scanner : Scanner ν} (hscanner : scanner ∈ scanners) {m : Found}
    {v : SpecValue ν} (h : scanner.read m = some v) : v.raw = String.ofList m.text := by
  have hscaled {q : Quantity} {rule : Found → (ν → ν) × String} (h : scaled q rule m = some v) :
      v.raw = String.ofList m.text := by
    obtain ⟨base, -, rfl⟩ := scaled_eq_some h
    rfl
  have hcounted {q : Quantity} (h : counted q m = some v) : v.raw = String.ofList m.text := by
    obtain ⟨count, -, rfl⟩ := counted_eq_some h
    rfl
  simp only [scanners, List.mem_cons, List.not_mem_nil, or_false] at hscanner
  rcases hscanner with rfl | rfl | rfl | rfl | rfl | rfl | rfl | rfl | rfl | rfl | rfl | rfl | rfl |
    rfl | rfl
  · simp only [toleranceScanner] at h
    exact hscaled h
  · simp only [frequencyScanner] at h
    exact hscaled h
  · obtain ⟨_, -, _, _, -, rfl⟩ := inlineResistance_eq_some h
    rfl
  · simp only [resistanceScanner] at h
    exact hscaled h
  · simp only [capacitanceScanner] at h
    exact hscaled h
  · simp only [inductanceScanner] at h
    exact hscaled h
  · simp only [voltageScanner] at h
    exact hscaled h
  · simp only [currentScanner] at h
    exact hscaled h
  · obtain ⟨_, _, -, -, -, rfl⟩ := powerFraction_eq_some h
    rfl
  · simp only [powerScanner] at h
    exact hscaled h
  · exact hcounted h
  · exact hcounted h
  · obtain ⟨rows, -, h⟩ := Option.bind_eq_some_iff.mp h
    obtain ⟨perRow, -, h⟩ := Option.bind_eq_some_iff.mp h
    obtain rfl := Option.some.inj h
    rfl
  · obtain ⟨_, -, rfl⟩ := pitch_eq_some h
    rfl
  · obtain ⟨width, -, h⟩ := Option.bind_eq_some_iff.mp h
    obtain ⟨height, -, h⟩ := Option.bind_eq_some_iff.mp h
    obtain rfl := Option.some.inj h
    rfl

/-- A candidate is what some scanner says of an occurrence of its pattern. -/
def IsRead (cs : List Char) (c : Candidate (SpecValue ν)) : Prop :=
  ∃ scanner ∈ scanners, ∃ m ∈ scanner.pattern.findAll cs,
    scanner.read m = some c.value ∧ c.span = ⟨m.start, m.stop⟩

theorem isRead_of_mem_scan {cs : List Char} {found : List (Candidate (SpecValue ν))}
    {scanner : Scanner ν} (hscanner : scanner ∈ scanners) {c : Candidate (SpecValue ν)}
    (h : c ∈ scan cs found scanner) : IsRead cs c := by
  obtain ⟨m, hm, hc⟩ := List.mem_filterMap.mp h
  split at hc
  · cases hc
  · obtain ⟨v, hread, rfl⟩ := Option.map_eq_some_iff.mp hc
    exact ⟨scanner, hscanner, m, hm, hread, rfl⟩

theorem isRead_of_mem_candidates {cs : List Char} {c : Candidate (SpecValue ν)}
    (h : c ∈ candidates ν cs) : IsRead cs c := by
  have hrun (todo : List (Scanner ν)) (htodo : todo ⊆ scanners)
      (found : List (Candidate (SpecValue ν))) (hfound : ∀ c ∈ found, IsRead cs c) :
      ∀ c ∈ todo.foldl (fun found scanner => found ++ scan cs found scanner) found,
        IsRead cs c := by
    induction todo generalizing found with
    | nil => exact hfound
    | cons scanner todo ih =>
        obtain ⟨hscanner, htodo⟩ := List.cons_subset.mp htodo
        apply ih htodo
        intro c hc
        rcases List.mem_append.mp hc with hold | hnew
        · exact hfound c hold
        · exact isRead_of_mem_scan hscanner hnew
  exact hrun scanners (List.Subset.refl _) [] (by simp) c h

section IsRead

variable {cs : List Char} {c : Candidate (SpecValue ν)}

theorem IsRead.span_bounds (h : IsRead cs c) :
    c.span.start < c.span.stop ∧ c.span.stop ≤ cs.length := by
  obtain ⟨scanner, -, m, hm, -, hspan⟩ := h
  obtain ⟨hfinds, htext⟩ := Pattern.finds_of_mem_findAll hm
  rw [hspan]
  exact hfinds.apart_span htext

theorem IsRead.raw (h : IsRead cs c) : c.value.raw.toList = c.span.textIn cs := by
  obtain ⟨scanner, hscanner, m, hm, hread, hspan⟩ := h
  obtain ⟨hfinds, -⟩ := Pattern.finds_of_mem_findAll hm
  rw [raw_of_read hscanner hread, String.toList_ofList, hspan, ← hfinds.whole, Span.textIn,
    Found.start, Found.stop]
  simp [List.take_append]

end IsRead

/-! ### Values and the rest -/

/-- A text is divided between some values, each with a span of the text, and what remains. -/
structure Divides (text : String) (kept : List (Candidate (SpecValue ν)))
    (values : List (SpecValue ν)) (remaining : String) : Prop where
  values_eq : values = kept.map (·.value)
  /-- The spans lie within the text, in order and without an overlap. -/
  apart : Span.Apart 0 text.toList.length (kept.map (·.span))
  once : ∀ i, (kept.countP fun c => c.span.covers i) ≤ 1
  raw : ∀ c ∈ kept, c.value.raw.toList = c.span.textIn text.toList
  remaining_eq : remaining = if kept = [] then text else
    String.ofList (collapse (Span.blanked 0 text.toList (kept.map (·.span))))
  /-- What the spans cover is in the values, character by character. -/
  inside : values.flatMap (·.raw.toList) = Span.inside 0 text.toList (kept.map (·.span))
  /-- What they leave is in the remaining text, up to white space. -/
  outside : visible remaining.toList =
    visible (Span.outside 0 text.toList (kept.map (·.span)))

theorem isRead_of_mem_select {cs : List Char} {c : Candidate (SpecValue ν)}
    (h : c ∈ Candidate.select (candidates ν cs)) : IsRead cs c :=
  isRead_of_mem_candidates (Candidate.select_subset _ h)

theorem apart_select_candidates (ν : Type) [Number ν] (cs : List Char) :
    Span.Apart 0 cs.length ((Candidate.select (candidates ν cs)).map (·.span)) :=
  Candidate.apart_select fun _ hc => (isRead_of_mem_candidates hc).span_bounds

theorem extract_divides (text : String) :
    Divides text (Candidate.select (candidates ν text.toList)) (extract ν text).1
      (extract ν text).2 := by
  have hapart := apart_select_candidates ν text.toList
  refine
    { values_eq := rfl
      apart := hapart
      once := ?_
      raw := fun c hc => (isRead_of_mem_select hc).raw
      remaining_eq := ?_
      inside := ?_
      outside := ?_ }
  · intro i
    have honce := hapart.countP_covers_le_one i
    rwa [List.countP_map] at honce
  · rw [extract, Span.cut_eq hapart]
    simp only [List.map_eq_nil_iff]
    split
    · exact String.ofList_toList
    · rfl
  · rw [← Span.flatMap_textFrom _ hapart, List.flatMap_map, extract, List.flatMap_map]
    apply List.flatMap_congr
    intro c hc
    exact (isRead_of_mem_select hc).raw
  · rw [extract, String.toList_ofList]
    exact Span.visible_cut hapart

end PartSearch.SpecValue
