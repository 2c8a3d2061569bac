import PartSearch.Text.Pattern

/-!
# What a pattern reads

The matcher lists the places where a pattern can stop. `Pattern.Reads` says without any place which
texts a pattern reads; edges and the ends of a text are conditions on what lies around, and read
nothing. Every place that the matcher lists lies behind a text of that kind, and every capture made
on the way read a text of its own pattern: `ends_passes`.

What a search finds is therefore a piece of the text that was searched, `finds_of_find?`, and the
occurrences that `findAll` lists lie apart and in order.
-/

namespace PartSearch.Text

/-- One comes from the place `p` to the place `q` by passing over `read`. -/
structure Place.Advances (p : Place) (read : List Char) (q : Place) : Prop where
  after : p.after = read ++ q.after
  before : q.before = read.reverse ++ p.before

theorem Place.Advances.refl {p q : Place} (hafter : p.after = q.after)
    (hbefore : q.before = p.before) : p.Advances [] q where
  after := hafter
  before := hbefore

theorem Place.Advances.trans {p q r : Place} {a b : List Char} (hp : p.Advances a q)
    (hq : q.Advances b r) : p.Advances (a ++ b) r where
  after := by rw [hp.after, hq.after, List.append_assoc]
  before := by rw [hq.before, hp.before, List.reverse_append, List.append_assoc]

namespace Pattern

inductive Reads : Pattern → List Char → Prop where
  | nothing : Reads nothing []
  | one {cls : Char → Bool} {c : Char} (h : cls c = true) : Reads (one cls) [c]
  | seq {p q : Pattern} {a b : List Char} (hp : Reads p a) (hq : Reads q b) :
      Reads (seq p q) (a ++ b)
  | first {p q : Pattern} {a : List Char} (h : Reads p a) : Reads (either p q) a
  | second {p q : Pattern} {a : List Char} (h : Reads q a) : Reads (either p q) a
  | stop {p : Pattern} : Reads (many p) []
  | again {p : Pattern} {a b : List Char} (h : Reads p a) (hrest : Reads (many p) b) :
      Reads (many p) (a ++ b)
  | edge : Reads edge []
  | start : Reads start []
  | finish : Reads finish []
  | capture {number : Nat} {p : Pattern} {a : List Char} (h : Reads p a) :
      Reads (capture number p) a

theorem reads_one_iff {cls : Char → Bool} {read : List Char} :
    (one cls).Reads read ↔ ∃ c, cls c = true ∧ read = [c] := by
  constructor
  · rintro (_ | hc)
    exact ⟨_, hc, rfl⟩
  · rintro ⟨c, hc, rfl⟩
    exact .one hc

theorem reads_append_iff {p q : Pattern} {read : List Char} :
    (p ++ q).Reads read ↔ ∃ a b, p.Reads a ∧ q.Reads b ∧ read = a ++ b := by
  constructor
  · intro h
    cases h with
    | seq hp hq => exact ⟨_, _, hp, hq, rfl⟩
  · rintro ⟨a, b, hp, hq, rfl⟩
    exact .seq hp hq

theorem reads_either_iff {p q : Pattern} {read : List Char} :
    (either p q).Reads read ↔ p.Reads read ∨ q.Reads read := by
  constructor
  · intro h
    cases h with
    | first hp => exact Or.inl hp
    | second hq => exact Or.inr hq
  · rintro (hp | hq)
    · exact .first hp
    · exact .second hq

theorem reads_capture_iff {number : Nat} {p : Pattern} {read : List Char} :
    (Pattern.capture number p).Reads read ↔ p.Reads read := by
  constructor
  · intro h
    cases h with
    | capture hp => exact hp
  · exact .capture

theorem forall_of_reads_many_one {cls : Char → Bool} {read : List Char}
    (h : (many (one cls)).Reads read) : ∀ c ∈ read, cls c = true := by
  generalize hp : many (one cls) = p at h
  induction h with
  | stop => simp
  | again hfirst _ _ ih =>
      cases hp
      obtain ⟨c, hc, rfl⟩ := reads_one_iff.mp hfirst
      exact List.forall_mem_cons.mpr ⟨hc, ih rfl⟩
  | _ => cases hp

/-- The patterns whose text is noted, each with its number. -/
def captured : Pattern → List (Nat × Pattern)
  | seq p q | either p q => p.captured ++ q.captured
  | many p => p.captured
  | capture number p => (number, p) :: p.captured
  | _ => []

/-- The numbers under which every reading of the pattern notes a text. -/
def always : Pattern → List Nat
  | seq p q => p.always ++ q.always
  | capture number p => number :: p.always
  | _ => []

/-- The pattern captures a text under the number of `c`. -/
def Notes (p : Pattern) (c : Capture) : Prop :=
  ∃ q, (c.number, q) ∈ p.captured ∧ q.Reads c.text

theorem Notes.mono {p q : Pattern} {c : Capture} (hsub : p.captured ⊆ q.captured)
    (h : p.Notes c) : q.Notes c := by
  obtain ⟨r, hr, hreads⟩ := h
  exact ⟨r, hsub hr, hreads⟩

/-- What it means that a pattern leads from one place to another. -/
structure Passes (p : Pattern) (a b : Place) : Prop where
  reads : ∃ read, p.Reads read ∧ a.Advances read b
  captures : ∀ c ∈ b.captures, c ∈ a.captures ∨ p.Notes c
  kept : a.captures ⊆ b.captures
  noted : ∀ number ∈ p.always, ∃ c ∈ b.captures, c.number = number

theorem Passes.mono {p q : Pattern} {a b : Place} (h : p.Passes a b)
    (hreads : ∀ read, p.Reads read → q.Reads read) (hsub : p.captured ⊆ q.captured)
    (halways : q.always ⊆ p.always) : q.Passes a b where
  reads := by
    obtain ⟨read, hread, hadvances⟩ := h.reads
    exact ⟨read, hreads read hread, hadvances⟩
  captures := by
    intro c hc
    exact (h.captures c hc).imp_right (Notes.mono hsub)
  kept := h.kept
  noted := fun number hnumber => h.noted number (halways hnumber)

theorem Passes.trans {p q r : Pattern} {a b c : Place} (hp : p.Passes a b) (hq : q.Passes b c)
    (hreads : ∀ x y, p.Reads x → q.Reads y → r.Reads (x ++ y))
    (hsub : p.captured ⊆ r.captured) (hsub' : q.captured ⊆ r.captured)
    (halways : r.always ⊆ p.always ++ q.always) : r.Passes a c where
  reads := by
    obtain ⟨x, hx, hax⟩ := hp.reads
    obtain ⟨y, hy, hby⟩ := hq.reads
    exact ⟨x ++ y, hreads x y hx hy, hax.trans hby⟩
  captures := by
    intro d hd
    rcases hq.captures d hd with hold | hnew
    · exact (hp.captures d hold).imp_right (Notes.mono hsub)
    · exact Or.inr (hnew.mono hsub')
  kept := List.Subset.trans hp.kept hq.kept
  noted := by
    intro number hnumber
    rcases List.mem_append.mp (halways hnumber) with hfirst | hsecond
    · obtain ⟨d, hd, hnumber⟩ := hp.noted number hfirst
      exact ⟨d, hq.kept hd, hnumber⟩
    · exact hq.noted number hsecond

theorem Passes.stay {p : Pattern} (a : Place) (h : p.Reads []) (halways : p.always = []) :
    p.Passes a a where
  reads := ⟨[], h, .refl rfl rfl⟩
  captures := fun _ hc => Or.inl hc
  kept := List.Subset.refl _
  noted := by simp [halways]

theorem Passes.capture {p : Pattern} {a b : Place} (number : Nat) (h : p.Passes a b) :
    (Pattern.capture number p).Passes a
      { b with captures := ⟨number, a.after, b.after⟩ :: b.captures } where
  reads := by
    obtain ⟨read, hread, hadvances⟩ := h.reads
    exact ⟨read, .capture hread, hadvances.after, hadvances.before⟩
  captures := by
    intro c hc
    rcases List.mem_cons.mp hc with rfl | hold
    · obtain ⟨read, hread, hadvances⟩ := h.reads
      refine Or.inr ⟨p, List.mem_cons_self, ?_⟩
      have htext : Capture.text ⟨number, a.after, b.after⟩ = read := by
        simp [Capture.text, hadvances.after]
      rwa [htext]
    · exact (h.captures c hold).imp_right (Notes.mono (List.subset_cons_self _ _))
  kept := List.subset_cons_of_subset _ h.kept
  noted := by
    intro k hk
    rcases List.mem_cons.mp hk with rfl | hk
    · exact ⟨_, List.mem_cons_self, rfl⟩
    · obtain ⟨c, hc, hnumber⟩ := h.noted k hk
      exact ⟨c, List.mem_cons_of_mem _ hc, hnumber⟩

/-! ### The places of a repetition -/

theorem foldr_repeatInto {step : Place → List Place} {limit : Nat}
    (happend : ∀ p rest, repeatInto step limit p rest = repeatInto step limit p [] ++ rest)
    (ps rest : List Place) :
    ps.foldr (repeatInto step limit) rest =
      ps.flatMap (fun p => repeatInto step limit p []) ++ rest := by
  induction ps with
  | nil => rfl
  | cons p ps ih => rw [List.foldr_cons, happend, ih, List.flatMap_cons, List.append_assoc]

theorem repeatInto_append (step : Place → List Place) (limit : Nat) (p : Place)
    (rest : List Place) : repeatInto step limit p rest = repeatInto step limit p [] ++ rest := by
  induction limit generalizing p rest with
  | zero => rfl
  | succ limit ih =>
      rw [repeatInto, repeatInto, foldr_repeatInto ih, foldr_repeatInto ih, List.append_assoc,
        List.singleton_append]

theorem repeatInto_succ (step : Place → List Place) (limit : Nat) (p : Place) :
    repeatInto step (limit + 1) p [] =
      (step p).flatMap (fun q => repeatInto step limit q []) ++ [p] := by
  rw [repeatInto, foldr_repeatInto (repeatInto_append step limit)]

theorem passes_of_mem_repeatInto {p : Pattern}
    (hstep : ∀ {a b : Place}, b ∈ p.ends a → p.Passes a b) {limit : Nat} {a b : Place}
    (h : b ∈ repeatInto p.ends limit a []) : (many p).Passes a b := by
  induction limit generalizing a with
  | zero =>
      obtain rfl := List.mem_singleton.mp h
      exact .stay b .stop rfl
  | succ limit ih =>
      rw [repeatInto_succ, List.mem_append, List.mem_flatMap, List.mem_singleton] at h
      rcases h with ⟨c, hc, hb⟩ | rfl
      · exact (hstep hc).trans (ih hb) (fun _ _ => .again) (List.Subset.refl _)
          (List.Subset.refl _) (List.nil_subset _)
      · exact .stay b .stop rfl

theorem ends_passes {p : Pattern} {a b : Place} (h : b ∈ p.ends a) : p.Passes a b := by
  induction p generalizing a b with
  | nothing =>
      obtain rfl := List.mem_singleton.mp h
      exact .stay b .nothing rfl
  | one cls =>
      rw [ends] at h
      split at h
      · cases h
      · rename_i c cs hafter
        split at h
        · rename_i hcls
          obtain rfl := List.mem_singleton.mp h
          exact
            { reads := ⟨[c], .one hcls, hafter, rfl⟩
              captures := fun _ hc => Or.inl hc
              kept := List.Subset.refl _
              noted := by simp [always] }
        · cases h
  | seq p q ihp ihq =>
      obtain ⟨c, hc, hb⟩ := List.mem_flatMap.mp h
      exact (ihp hc).trans (ihq hb) (fun _ _ => .seq) (List.subset_append_left _ _)
        (List.subset_append_right _ _) (List.Subset.refl _)
  | either p q ihp ihq =>
      rcases List.mem_append.mp h with hp | hq
      · exact (ihp hp).mono (fun _ => .first) (List.subset_append_left _ _) (List.nil_subset _)
      · exact (ihq hq).mono (fun _ => .second) (List.subset_append_right _ _) (List.nil_subset _)
  | many p ih => exact passes_of_mem_repeatInto ih h
  | edge =>
      rw [ends] at h
      split at h
      · obtain rfl := List.mem_singleton.mp h
        exact .stay b .edge rfl
      · cases h
  | start =>
      rw [ends] at h
      split at h
      · obtain rfl := List.mem_singleton.mp h
        exact .stay b .start rfl
      · cases h
  | finish =>
      rw [ends] at h
      split at h
      · obtain rfl := List.mem_singleton.mp h
        exact .stay b .finish rfl
      · cases h
  | capture number p ih =>
      obtain ⟨c, hc, rfl⟩ := List.mem_map.mp h
      exact (ih hc).capture number

theorem ends_chars (cs : List Char) (a : Place) :
    (chars cs).ends a = if cs.isPrefixOf a.after then
      [{ a with before := cs.reverse ++ a.before, after := a.after.drop cs.length }] else [] := by
  induction cs generalizing a with
  | nil => rfl
  | cons c cs ih =>
      change ((one (· == c)).ends a).flatMap (chars cs).ends = _
      cases hafter : a.after with
      | nil => simp [ends, hafter]
      | cons d after =>
          by_cases hd : d = c
          · subst hd
            simp [ends, hafter, ih]
          · simp [ends, hafter, hd, Ne.symm hd]

/-! ### Occurrences -/

/-- `m` is an occurrence of the pattern in a text. -/
structure Finds (p : Pattern) (cs : List Char) (m : Found) : Prop where
  whole : m.before.reverse ++ m.text ++ m.after = cs
  reads : p.Reads m.text
  captures : ∀ c ∈ m.captures, p.Notes c
  noted : ∀ number ∈ p.always, ∃ c ∈ m.captures, c.number = number

/-- A text that is always noted, and by one pattern only, is one that this pattern reads. -/
theorem Finds.reads_capture {p q : Pattern} {cs : List Char} {m : Found} (h : p.Finds cs m)
    {number : Nat} (halways : number ∈ p.always)
    (hone : p.captured.filter (·.1 == number) = [(number, q)]) : q.Reads (m.capture number) := by
  obtain ⟨noted, hnoted, hnumber⟩ := h.noted number halways
  have hsome : (m.captures.find? (·.number == number)).isSome = true :=
    List.find?_isSome.mpr ⟨noted, hnoted, by simpa using hnumber⟩
  obtain ⟨c, hfind⟩ := Option.isSome_iff_exists.mp hsome
  obtain ⟨r, hr, hreads⟩ := h.captures c (List.mem_of_find?_eq_some hfind)
  have hc := List.find?_some hfind
  have hmem : (c.number, r) ∈ p.captured.filter (·.1 == number) := List.mem_filter.mpr ⟨hr, hc⟩
  rw [hone, List.mem_singleton] at hmem
  obtain ⟨-, rfl⟩ := Prod.mk.inj hmem
  rw [Found.capture, Found.capture?, hfind]
  exact hreads

theorem Finds.stop_le {p : Pattern} {cs : List Char} {m : Found} (h : p.Finds cs m) :
    m.stop ≤ cs.length := by
  rw [← h.whole, Found.stop]
  simp

theorem finds_of_at? {p : Pattern} {before after : List Char} {m : Found}
    (h : p.at? before after = some m) :
    m.before = before ∧ p.Finds (before.reverse ++ after) m := by
  obtain ⟨q, hq, rfl⟩ := Option.map_eq_some_iff.mp h
  have hpasses := ends_passes (List.mem_of_head? hq)
  obtain ⟨read, hread, hadvances⟩ := hpasses.reads
  have htext : after.take (after.length - q.after.length) = read := by
    simp [show after = read ++ q.after from hadvances.after]
  refine ⟨rfl, ?_, ?_, ?_, hpasses.noted⟩
  · rw [htext, List.append_assoc, ← hadvances.after]
  · rwa [htext]
  · intro c hc
    exact (hpasses.captures c hc).resolve_left List.not_mem_nil

theorem finds_of_findFrom? {p : Pattern} {before cs : List Char} {m : Found}
    (h : p.findFrom? before cs = some m) : p.Finds (before.reverse ++ cs) m := by
  induction cs generalizing before with
  | nil => exact (finds_of_at? h).2
  | cons c cs ih =>
      rw [findFrom?] at h
      split at h
      · rename_i hat
        obtain rfl := Option.some.inj h
        exact (finds_of_at? hat).2
      · simpa using ih h

theorem finds_of_find? {p : Pattern} {cs : List Char} {m : Found} (h : p.find? cs = some m) :
    p.Finds cs m := finds_of_findFrom? h

theorem finds_of_mem_findAllFrom {p : Pattern} {before cs : List Char} {skip : Nat} {m : Found}
    (h : m ∈ p.findAllFrom before skip cs) :
    p.Finds (before.reverse ++ cs) m ∧ m.text ≠ [] ∧ before.length + skip ≤ m.start := by
  induction cs generalizing before skip with
  | nil => simp [findAllFrom] at h
  | cons c cs ih =>
      have hnext {skip : Nat} (h : m ∈ p.findAllFrom (c :: before) skip cs) :
          p.Finds (before.reverse ++ c :: cs) m ∧ m.text ≠ [] ∧
            before.length + 1 + skip ≤ m.start := by
        simpa using ih h
      cases skip with
      | succ skip =>
          obtain ⟨hfinds, htext, hstart⟩ := hnext h
          exact ⟨hfinds, htext, by omega⟩
      | zero =>
          rw [findAllFrom] at h
          split at h
          · rename_i found hat
            obtain ⟨hbefore, hfinds⟩ := finds_of_at? hat
            by_cases hempty : found.text.isEmpty = true
            · rw [if_pos hempty] at h
              obtain ⟨hfinds, htext, hstart⟩ := hnext h
              exact ⟨hfinds, htext, by omega⟩
            · rw [if_neg hempty] at h
              rcases List.mem_cons.mp h with rfl | hlater
              · exact ⟨hfinds, by simpa using hempty, by simp [Found.start, hbefore]⟩
              · obtain ⟨hfinds, htext, hstart⟩ := hnext hlater
                exact ⟨hfinds, htext, by omega⟩
          · obtain ⟨hfinds, htext, hstart⟩ := hnext h
            exact ⟨hfinds, htext, by omega⟩

theorem finds_of_mem_findAll {p : Pattern} {cs : List Char} {m : Found} (h : m ∈ p.findAll cs) :
    p.Finds cs m ∧ m.text ≠ [] := by
  obtain ⟨hfinds, htext, -⟩ := finds_of_mem_findAllFrom h
  exact ⟨hfinds, htext⟩

theorem pairwise_findAllFrom (p : Pattern) (before : List Char) (skip : Nat) (cs : List Char) :
    (p.findAllFrom before skip cs).Pairwise fun a b => a.stop ≤ b.start := by
  induction cs generalizing before skip with
  | nil => simp [findAllFrom]
  | cons c cs ih =>
      cases skip with
      | succ skip => exact ih (c :: before) skip
      | zero =>
          rw [findAllFrom]
          split
          · rename_i m hat
            by_cases hempty : m.text.isEmpty = true
            · rw [if_pos hempty]
              exact ih (c :: before) 0
            · rw [if_neg hempty]
              refine List.pairwise_cons.mpr ⟨?_, ih (c :: before) _⟩
              intro later hlater
              have hstart := (finds_of_mem_findAllFrom hlater).2.2
              have hbefore := (finds_of_at? hat).1
              have hlength : 0 < m.text.length :=
                List.length_pos_iff.mpr (by simpa using hempty)
              rw [List.length_cons] at hstart
              rw [Found.stop, hbefore]
              omega
          · exact ih (c :: before) 0

theorem pairwise_findAll (p : Pattern) (cs : List Char) :
    (p.findAll cs).Pairwise fun a b => a.stop ≤ b.start :=
  p.pairwise_findAllFrom [] 0 cs

end Pattern

end PartSearch.Text
