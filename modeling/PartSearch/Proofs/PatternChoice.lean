import PartSearch.Proofs.PatternReading

/-!
# Which reading a pattern prefers

A pattern may stop at several places, and a search takes the first of them. `Pattern.Takes` says
which text that place lies behind, `Pattern.mayStart` with which characters a pattern can start, and
`Pattern.Needs` that it reads no text without a character of some kind. From these it follows where
a search finds an occurrence, what it captures, and when it finds none.
-/

namespace PartSearch.Text

theorem Capture.text_mk (number : Nat) (read rest : List Char) :
    Capture.text ⟨number, read ++ rest, rest⟩ = read := by
  simp [Capture.text]

theorem Found.capture_cons (before text after : List Char) (c : Capture) (cs : List Capture)
    (number : Nat) : Found.capture ⟨before, text, after, c :: cs⟩ number =
      if c.number = number then c.text else Found.capture ⟨before, text, after, cs⟩ number := by
  by_cases h : c.number = number <;> simp [Found.capture, Found.capture?, h]

namespace Pattern

/-! ### The preferred reading -/

theorem head?_dropWhile_eq_false (cls : Char → Bool) (cs : List Char) :
    (cs.dropWhile cls).head?.any cls = false := by
  have hhead := List.head?_dropWhile_not cls cs
  cases hcs : (cs.dropWhile cls).head? with
  | none => rfl
  | some c =>
      rw [hcs] at hhead
      simpa using hhead

/-- With `read` and `rest` ahead, the pattern stops behind `read` if it has the choice, and notes
some captures, whatever stands before. -/
def Takes (p : Pattern) (read rest : List Char) (noted : List Capture) : Prop :=
  ∀ before captures, (p.ends ⟨before, read ++ rest, captures⟩).head? =
    some ⟨read.reverse ++ before, rest, noted ++ captures⟩

section Takes

variable {p q : Pattern} {a b rest : List Char} {noted later : List Capture}

theorem Takes.seq (hp : p.Takes a (b ++ rest) noted) (hq : q.Takes b rest later) :
    (p ++ q).Takes (a ++ b) rest (later ++ noted) := by
  intro before captures
  change ((p.ends _).flatMap q.ends).head? = _
  obtain ⟨more, hends⟩ := List.head?_eq_some_iff.mp (hp before captures)
  rw [List.append_assoc, hends, List.flatMap_cons, List.head?_append, hq, Option.some_or,
    List.reverse_append, List.append_assoc, List.append_assoc]

theorem Takes.seq_nil (hp : p.Takes a rest noted) (hq : q.Takes [] rest later) :
    (p ++ q).Takes a rest (later ++ noted) := by
  have h := @Takes.seq _ _ _ [] _ _ _ hp hq
  rwa [List.append_nil] at h

/-- The last part of a pattern reads to the end of the text. -/
theorem Takes.seq_last (hp : p.Takes a b noted) (hq : q.Takes b [] later) :
    (p ++ q).Takes (a ++ b) [] (later ++ noted) := by
  rw [← List.append_nil b] at hp
  exact hp.seq hq

theorem Takes.char {cls : Char → Bool} {c : Char} (h : cls c = true) (rest : List Char) :
    (one cls).Takes [c] rest [] := by
  intro before captures
  simp [ends, h]

theorem Takes.capture (number : Nat) (h : p.Takes a rest noted) :
    (capture number p).Takes a rest (⟨number, a ++ rest, rest⟩ :: noted) := by
  intro before captures
  change ((p.ends _).map _).head? = _
  rw [List.head?_map, h before captures]
  rfl

theorem Takes.first (h : p.Takes a rest noted) : (either p q).Takes a rest noted := by
  intro before captures
  change (p.ends _ ++ q.ends _).head? = _
  rw [List.head?_append, h before captures, Option.some_or]

/-- A run of characters is read to its end. -/
theorem Takes.many_one {cls : Char → Bool} (hread : a.all cls = true)
    (hrest : rest.head?.any cls = false) : (many (one cls)).Takes a rest [] := by
  -- The limit of the repetition is the length of the text, so it never stops the run early.
  have hrun (limit : Nat) (hlimit : a.length ≤ limit) (before : List Char)
      (captures : List Capture) :
      (repeatInto (one cls).ends limit ⟨before, a ++ rest, captures⟩ []).head? =
        some ⟨a.reverse ++ before, rest, captures⟩ := by
    induction a generalizing limit before with
    | nil =>
        cases limit with
        | zero => rfl
        | succ limit =>
            have hstop : (one cls).ends ⟨before, rest, captures⟩ = [] := by
              cases rest with
              | nil => rfl
              | cons c rest =>
                  have hc : cls c = false := hrest
                  simp [ends, hc]
            rw [repeatInto_succ, List.nil_append, hstop]
            rfl
    | cons c a ih =>
        obtain ⟨hc, hread⟩ := Bool.and_eq_true_iff.mp hread
        cases limit with
        | zero => simp at hlimit
        | succ limit =>
            have hstep : (one cls).ends ⟨before, c :: a ++ rest, captures⟩ =
                [⟨c :: before, a ++ rest, captures⟩] := by simp [ends, hc]
            have hnext := ih hread limit (by simpa using hlimit) (c :: before)
            rw [repeatInto_succ, hstep, List.flatMap_singleton, List.head?_append, hnext]
            simp
  intro before captures
  exact hrun _ (by simp) before captures

theorem Takes.many1_one {cls : Char → Bool} (hne : a ≠ []) (hread : a.all cls = true)
    (hrest : rest.head?.any cls = false) : (many1 (one cls)).Takes a rest [] := by
  obtain ⟨c, a, rfl⟩ := List.exists_cons_of_ne_nil hne
  obtain ⟨hc, hread⟩ := Bool.and_eq_true_iff.mp hread
  exact (Takes.char hc (a ++ rest)).seq (.many_one hread hrest)

theorem Takes.blanks (hrest : rest.head?.any isBlank = false) : blanks.Takes [] rest [] :=
  .many_one rfl hrest

theorem Takes.at?_eq (h : p.Takes a rest noted) (before : List Char) :
    p.at? before (a ++ rest) = some ⟨before, a, rest, noted⟩ := by
  rw [at?, h before []]
  simp

theorem Takes.findFrom?_eq (h : p.Takes a rest noted) (before : List Char) :
    p.findFrom? before (a ++ rest) = some ⟨before, a, rest, noted⟩ := by
  have hat := h.at?_eq before
  generalize a ++ rest = cs at hat
  cases cs with
  | nil => exact hat
  | cons c cs => rw [findFrom?, hat]

theorem Takes.find? (h : p.Takes a rest noted) :
    p.find? (a ++ rest) = some ⟨[], a, rest, noted⟩ :=
  h.findFrom?_eq []

theorem Takes.find?_self (h : p.Takes a [] noted) : p.find? a = some ⟨[], a, [], noted⟩ := by
  have hfind := h.find?
  rwa [List.append_nil] at hfind

end Takes

/-! ### Characters that a pattern needs -/

/-- Whatever the pattern reads, there is a character of the class in it. -/
def Needs (p : Pattern) (cls : Char → Bool) : Prop :=
  ∀ read, p.Reads read → ∃ c ∈ read, cls c = true

section Needs

variable {p q : Pattern} {cls : Char → Bool}

theorem needs_one (cls : Char → Bool) : (one cls).Needs cls := by
  intro read hread
  obtain ⟨c, hc, rfl⟩ := reads_one_iff.mp hread
  exact ⟨c, List.mem_singleton_self c, hc⟩

theorem needs_charOf (text : String) : (charOf text).Needs text.toList.contains :=
  needs_one _

theorem needs_caselessCharOf (text : String) : (caselessCharOf text).Needs fun d =>
    text.toList.any fun c => caseClass d == caseClass c :=
  needs_one _

theorem Needs.left (h : p.Needs cls) : (p ++ q).Needs cls := by
  intro read hread
  obtain ⟨a, b, hp, -, rfl⟩ := reads_append_iff.mp hread
  obtain ⟨c, hc, hcls⟩ := h a hp
  exact ⟨c, List.mem_append_left _ hc, hcls⟩

theorem Needs.right (h : q.Needs cls) : (p ++ q).Needs cls := by
  intro read hread
  obtain ⟨a, b, -, hq, rfl⟩ := reads_append_iff.mp hread
  obtain ⟨c, hc, hcls⟩ := h b hq
  exact ⟨c, List.mem_append_right _ hc, hcls⟩

/-- A spelled-out pattern needs each of its characters. -/
theorem needs_exact (text : String) (c : Char) (h : c ∈ text.toList) :
    (exact text).Needs (· == c) := by
  unfold exact chars
  generalize text.toList = cs at h
  induction cs with
  | nil => cases h
  | cons d ds ih =>
      rcases List.mem_cons.mp h with rfl | h
      · exact (needs_one _).left
      · exact (ih h).right

theorem needs_caseless (text : String) (c : Char) (h : c ∈ text.toList) :
    (caseless text).Needs fun d => caseClass d == caseClass c := by
  unfold caseless
  generalize text.toList = cs at h
  induction cs with
  | nil => cases h
  | cons d ds ih =>
      rcases List.mem_cons.mp h with rfl | h
      · exact (needs_one _).left
      · exact (ih h).right

theorem find?_eq_none (h : p.Needs cls) {cs : List Char} (hcs : cs.any cls = false) :
    p.find? cs = none := by
  rw [Option.eq_none_iff_forall_ne_some]
  intro m hm
  have hfinds := finds_of_find? hm
  obtain ⟨c, hc, hcls⟩ := h _ hfinds.reads
  have hmem : c ∈ cs := by
    rw [← hfinds.whole]
    exact List.mem_append_left _ (List.mem_append_right _ hc)
  exact List.any_eq_false.mp hcs c hmem hcls

end Needs

/-! ### Characters that a pattern cannot start with -/

/-- Can the first piece of the pattern be read before the character? -/
def mayStart : Pattern → Char → Bool
  | one cls, c => cls c
  | seq first _, c => first.mayStart c
  | either first second, c => first.mayStart c || second.mayStart c
  | capture _ captured, c => captured.mayStart c
  | _, _ => true

section MayStart

variable {p : Pattern}

theorem ends_eq_nil {c : Char} (h : p.mayStart c = false) (before after : List Char)
    (captures : List Capture) : p.ends ⟨before, c :: after, captures⟩ = [] := by
  induction p with
  | one cls =>
      rw [mayStart] at h
      simp [ends, h]
  | seq first second ihfirst _ => rw [ends, ihfirst h, List.flatMap_nil]
  | either first second ihfirst ihsecond =>
      obtain ⟨hfirst, hsecond⟩ := Bool.or_eq_false_iff.mp h
      rw [ends, ihfirst hfirst, ihsecond hsecond, List.append_nil]
  | capture number captured ih => rw [ends, ih h, List.map_nil]
  | nothing | many | edge | start | finish => cases h

theorem at?_eq_none {c : Char} (h : p.mayStart c = false) (before after : List Char) :
    p.at? before (c :: after) = none := by
  rw [at?, ends_eq_nil h]
  rfl

theorem findFrom?_append {skipped : List Char} (h : skipped.any p.mayStart = false)
    (before cs : List Char) :
    p.findFrom? before (skipped ++ cs) = p.findFrom? (skipped.reverse ++ before) cs := by
  induction skipped generalizing before with
  | nil => rfl
  | cons c skipped ih =>
      obtain ⟨hc, hskipped⟩ := Bool.or_eq_false_iff.mp h
      rw [List.cons_append, findFrom?, at?_eq_none hc, ih hskipped, List.reverse_cons,
        List.append_assoc, List.singleton_append]

theorem replaceFrom_append {skipped : List Char} (h : skipped.any p.mayStart = false)
    (write : Found → List Char) (before cs : List Char) :
    p.replaceFrom write before 0 (skipped ++ cs) =
      skipped ++ p.replaceFrom write (skipped.reverse ++ before) 0 cs := by
  induction skipped generalizing before with
  | nil => rfl
  | cons c skipped ih =>
      obtain ⟨hc, hskipped⟩ := Bool.or_eq_false_iff.mp h
      rw [List.cons_append, replaceFrom, at?_eq_none hc, ih hskipped, List.reverse_cons,
        List.append_assoc, List.singleton_append, List.cons_append]

theorem removeAll_eq_self {cs : List Char} (h : cs.any p.mayStart = false) :
    p.removeAll cs = cs := by
  have hremove := replaceFrom_append h (fun _ => []) [] []
  rw [List.append_nil] at hremove
  rw [removeAll, replaceAll, hremove, replaceFrom, List.append_nil]

end MayStart

end Pattern

end PartSearch.Text
