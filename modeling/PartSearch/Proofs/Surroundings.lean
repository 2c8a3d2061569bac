import PartSearch.Proofs.WordOccurrences

/-!
# What a pattern sees of its surroundings

A pattern that does not ask for the start of the text looks back at one character at most, so a
search goes on alike behind whatever stands before that character: `text_findFrom?`. One that asks
for nothing around it stops behind every text that it reads, `exists_mem_ends`, and between edges it
occurs wherever such a text does: `exists_at?_wordOf`.
-/

namespace PartSearch.Text

/-- A place in a text that has more before it, `x` with its nearest character first. -/
def Place.behind (x : List Char) (p : Place) : Place := { p with before := p.before ++ x }

def Found.behind (x : List Char) (m : Found) : Found := { m with before := m.before ++ x }

namespace Pattern

/-- A pattern that does not ask for the start of the text. -/
def startless : Pattern → Bool
  | start => false
  | seq p q | either p q => p.startless && q.startless
  | many p | capture _ p => p.startless
  | _ => true

/-- A pattern that asks for nothing around what it reads. -/
def unconditional : Pattern → Bool
  | edge | start | finish => false
  | seq p q | either p q => p.unconditional && q.unconditional
  | many p | capture _ p => p.unconditional
  | _ => true

section Behind

variable {p : Pattern} {x : List Char}

theorem startless_of_unconditional (h : p.unconditional = true) : p.startless = true := by
  induction p with
  | seq p q ihp ihq | either p q ihp ihq =>
      obtain ⟨hp, hq⟩ := Bool.and_eq_true_iff.mp h
      exact Bool.and_eq_true_iff.mpr ⟨ihp hp, ihq hq⟩
  | many p ih | capture number p ih => exact ih h
  | edge | start | finish => cases h
  | nothing | one => rfl

theorem before_ne_nil {a b : Place} (ha : a.before ≠ []) (h : b ∈ p.ends a) : b.before ≠ [] := by
  obtain ⟨read, -, hadvances⟩ := (ends_passes h).reads
  rw [hadvances.before]
  exact List.append_ne_nil_of_right_ne_nil read.reverse ha

theorem isEdge_behind {a : Place} (ha : a.before ≠ []) : (a.behind x).isEdge = a.isEdge := by
  obtain ⟨c, before, hbefore⟩ := List.exists_cons_of_ne_nil ha
  simp [Place.isEdge, Place.behind, hbefore]

theorem ends_behind {a : Place} (h : p.startless = true)
    (ha : p.unconditional = true ∨ a.before ≠ []) :
    p.ends (a.behind x) = (p.ends a).map (Place.behind x) := by
  have hand {b c : Bool} {r : Prop} (h : (b && c) = true ∨ r) :
      (b = true ∨ r) ∧ (c = true ∨ r) := by
    rwa [Bool.and_eq_true, or_comm, or_and_left, or_comm, or_comm (a := r)] at h
  induction p generalizing a with
  | nothing => rfl
  | one cls =>
      cases hafter : a.after with
      | nil => simp [ends, Place.behind, hafter]
      | cons c after => by_cases hc : cls c = true <;> simp [ends, Place.behind, hafter, hc]
  | seq p q ihp ihq =>
      obtain ⟨hp, hq⟩ := Bool.and_eq_true_iff.mp h
      obtain ⟨hap, haq⟩ := hand ha
      rw [ends, ends, ihp hp hap, List.flatMap_map, List.map_flatMap, List.flatMap_def,
        List.flatMap_def]
      congr 1
      exact List.map_congr_left fun b hb => ihq hq (haq.imp_right fun ha => before_ne_nil ha hb)
  | either p q ihp ihq =>
      obtain ⟨hp, hq⟩ := Bool.and_eq_true_iff.mp h
      obtain ⟨hap, haq⟩ := hand ha
      rw [ends, ends, ihp hp hap, ihq hq haq, List.map_append]
  | many p ih =>
      have hrun (limit : Nat) {a : Place} (ha : p.unconditional = true ∨ a.before ≠ []) :
          repeatInto p.ends limit (a.behind x) [] =
            (repeatInto p.ends limit a []).map (Place.behind x) := by
        induction limit generalizing a with
        | zero => rfl
        | succ limit ihlimit =>
            rw [repeatInto_succ, repeatInto_succ, ih h ha, List.flatMap_map, List.map_append,
              List.map_flatMap, List.flatMap_def, List.flatMap_def]
            congr 2
            exact List.map_congr_left fun b hb =>
              ihlimit (ha.imp_right fun ha => before_ne_nil ha hb)
      exact hrun a.after.length ha
  | edge =>
      rw [ends, ends, isEdge_behind (ha.resolve_left Bool.false_ne_true)]
      split <;> rfl
  | start => cases h
  | finish =>
      rw [ends, ends]
      change (if a.after.isEmpty = true then _ else _) = _
      split <;> rfl
  | capture number p ih =>
      rw [ends, ends, ih h ha, List.map_map, List.map_map]
      rfl

theorem at?_behind (h : p.startless = true) {before : List Char} (hbefore : before ≠ [])
    (after : List Char) :
    p.at? (before ++ x) after = (p.at? before after).map (Found.behind x) := by
  have hends := @ends_behind p x ⟨before, after, []⟩ h (Or.inr hbefore)
  change ((p.ends (Place.behind x ⟨before, after, []⟩)).head?.map _) = _
  rw [hends, List.head?_map, Option.map_map, at?, Option.map_map]
  rfl

theorem findFrom?_behind_one (h : p.startless = true) {before : List Char} (hbefore : before ≠ [])
    (cs : List Char) :
    p.findFrom? (before ++ x) cs = (p.findFrom? before cs).map (Found.behind x) := by
  induction cs generalizing before with
  | nil => exact at?_behind h hbefore []
  | cons c cs ih =>
      rw [findFrom?, findFrom?, at?_behind h hbefore, ← List.cons_append,
        ih (List.cons_ne_nil c before)]
      cases p.at? before (c :: cs) <;> rfl

/-- What a search finds does not depend on what stands before the nearest character. -/
theorem text_findFrom? (h : p.startless = true) (c : Char) (before before' cs : List Char) :
    (p.findFrom? (c :: before) cs).map Found.text =
      (p.findFrom? (c :: before') cs).map Found.text := by
  have hone (before : List Char) : (p.findFrom? (c :: before) cs).map Found.text =
      (p.findFrom? [c] cs).map Found.text := by
    have hbehind := @findFrom?_behind_one p before h [c] (List.cons_ne_nil c []) cs
    rw [← List.singleton_append, hbehind, Option.map_map]
    rfl
  rw [hone before, hone before']

theorem replaceFrom_behind (h : p.startless = true) {write : Found → List Char}
    (hwrite : ∀ m, write (m.behind x) = write m) {before : List Char} (hbefore : before ≠ [])
    (skip : Nat) (cs : List Char) :
    p.replaceFrom write (before ++ x) skip cs = p.replaceFrom write before skip cs := by
  induction cs generalizing before skip with
  | nil => rw [replaceFrom, replaceFrom]
  | cons c cs ih =>
      have hnext (skip : Nat) := ih (List.cons_ne_nil c before) skip
      simp only [List.cons_append] at hnext
      cases skip with
      | succ skip => exact hnext skip
      | zero =>
          rw [replaceFrom, replaceFrom, at?_behind h hbefore]
          cases p.at? before (c :: cs) with
          | none => exact congrArg (c :: ·) (hnext 0)
          | some m =>
              change (if m.text.isEmpty = true then _ else _) = _
              simp only [hwrite, hnext]
              rfl

end Behind

/-! ### Texts that are read are found -/

section Complete

variable {p : Pattern} {read : List Char}

theorem mem_repeatInto_of_le {step : Place → List Place} {least most : Nat} (h : least ≤ most)
    {a b : Place} (hb : b ∈ repeatInto step least a []) : b ∈ repeatInto step most a [] := by
  induction least generalizing a most with
  | zero =>
      obtain rfl := List.mem_singleton.mp hb
      cases most with
      | zero => exact hb
      | succ most => simp [repeatInto_succ]
  | succ least ih =>
      obtain ⟨most, rfl⟩ := Nat.exists_eq_add_one_of_ne_zero (Nat.ne_zero_of_lt h)
      rw [repeatInto_succ, List.mem_append, List.mem_flatMap] at hb ⊢
      refine hb.imp_left ?_
      rintro ⟨c, hc, hb⟩
      exact ⟨c, hc, ih (Nat.le_of_succ_le_succ h) hb⟩

theorem exists_mem_ends (h : p.unconditional = true) (hread : p.Reads read)
    (before rest : List Char) (captures : List Capture) :
    ∃ q ∈ p.ends ⟨before, read ++ rest, captures⟩, q.after = rest := by
  induction hread generalizing before rest captures with
  | nothing => exact ⟨_, List.mem_singleton_self _, rfl⟩
  | @one cls c hc => exact ⟨⟨c :: before, rest, captures⟩, by simp [ends, hc], rfl⟩
  | @seq p q a b _ _ ihp ihq =>
      obtain ⟨hp, hq⟩ := Bool.and_eq_true_iff.mp h
      obtain ⟨⟨front, after, noted⟩, hfirst, rfl⟩ := ihp hp before (b ++ rest) captures
      obtain ⟨last, hlast, hrest⟩ := ihq hq front rest noted
      rw [← List.append_assoc] at hfirst
      exact ⟨last, List.mem_flatMap.mpr ⟨_, hfirst, hlast⟩, hrest⟩
  | first _ ih =>
      obtain ⟨q, hq, hrest⟩ := ih (Bool.and_eq_true_iff.mp h).1 before rest captures
      exact ⟨q, List.mem_append_left _ hq, hrest⟩
  | second _ ih =>
      obtain ⟨q, hq, hrest⟩ := ih (Bool.and_eq_true_iff.mp h).2 before rest captures
      exact ⟨q, List.mem_append_right _ hq, hrest⟩
  | @stop p =>
      refine ⟨⟨before, rest, captures⟩, ?_, rfl⟩
      exact mem_repeatInto_of_le (Nat.zero_le _) (List.mem_singleton_self _)
  | @again p a b _ _ ihfirst ihrest =>
      by_cases ha : a = []
      · subst ha
        exact ihrest h before rest captures
      · obtain ⟨⟨front, after, noted⟩, hfirst, rfl⟩ := ihfirst h before (b ++ rest) captures
        obtain ⟨last, hlast, hrest⟩ := ihrest h front rest noted
        rw [← List.append_assoc] at hfirst
        -- One repetition is used up, and the limit has one to spare for the text that it read.
        obtain ⟨limit, hlimit⟩ : ∃ limit, (a ++ b ++ rest).length = limit + 1 := by
          refine Nat.exists_eq_add_one_of_ne_zero ?_
          simp [ha]
        have hle : (b ++ rest).length ≤ limit := by
          have hpos := List.length_pos_iff.mpr ha
          rw [List.append_assoc, List.length_append] at hlimit
          omega
        refine ⟨last, ?_, hrest⟩
        change last ∈ repeatInto p.ends (a ++ b ++ rest).length _ []
        rw [hlimit, repeatInto_succ]
        exact List.mem_append_left _ (List.mem_flatMap.mpr
          ⟨_, hfirst, mem_repeatInto_of_le hle hlast⟩)
  | edge | start | finish => cases h
  | capture _ ih =>
      obtain ⟨q, hq, hrest⟩ := ih h before rest captures
      exact ⟨_, List.mem_map.mpr ⟨q, hq, rfl⟩, hrest⟩

theorem exists_at?_wordOf (h : p.unconditional = true) (hread : p.Reads read)
    {before rest : List Char} (hstart : (Place.mk before (read ++ rest) []).isEdge = true)
    (hend : (Place.mk (read.reverse ++ before) rest []).isEdge = true) :
    ∃ m, (wordOf p).at? before (read ++ rest) = some m := by
  obtain ⟨q, hq, rfl⟩ := exists_mem_ends h hread before rest []
  have hedge : q.isEdge = true := by
    obtain ⟨text, -, hadvances⟩ := (ends_passes hq).reads
    obtain rfl : read = text := List.append_cancel_right hadvances.after
    rwa [Place.isEdge, hadvances.before]
  have hmem : q ∈ (wordOf p).ends ⟨before, read ++ q.after, []⟩ := by
    refine List.mem_flatMap.mpr ⟨q, List.mem_flatMap.mpr ⟨_, ?_, hq⟩, ?_⟩
    · rw [ends, if_pos hstart]
      exact List.mem_singleton_self _
    · rw [ends, if_pos hedge]
      exact List.mem_singleton_self _
  obtain ⟨first, more, hends⟩ := List.exists_cons_of_ne_nil (List.ne_nil_of_mem hmem)
  exact ⟨_, by rw [at?, hends]; rfl⟩

end Complete

end Pattern

end PartSearch.Text
