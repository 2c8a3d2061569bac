import PartSearch.Proofs.TrimmedText

/-!
# Searching with backtracking

A search for some characters of a class with white space around them has many ways to divide a text:
it passes over as much white space as it can, reads as few characters as it can, and goes back to
its last choice whenever what follows finds nothing. `between` is that search, with the rest of the
search given to it.

If the rest finds something in one place only, all that going back leads to one division, and
`between_append` says which characters are read then: those between the white space of the text in
front of that place. Only if there is nothing else in front of it, white space is given back, and it
is the last character of it that is read, `core?`.
-/

namespace PartSearch.Text

section Choices

variable {β : Type}

/-- As many leading characters of a class as possible are passed over; if `next` finds nothing then,
one less. -/
def most (cls : Char → Bool) (next : List Char → Option β) : List Char → Option β
  | [] => next []
  | c :: cs => if cls c then (most cls next cs).or (next (c :: cs)) else next (c :: cs)

/-- As few leading characters of a class as possible are read, at least one; if `next` finds nothing
behind them, one more. -/
def fewest (cls : Char → Bool) (next : List Char → List Char → Option β) (read : List Char) :
    List Char → Option β
  | [] => none
  | c :: cs =>
    if cls c then (next (read ++ [c]) cs).or (fewest cls next (read ++ [c]) cs) else none

/-- Some characters of a class, with white space around them. -/
def between (cls : Char → Bool) (next : List Char → List Char → Option β) (cs : List Char) :
    Option β :=
  most isBlank (fun start => fewest cls (fun read => most isBlank (next read)) [] start) cs

/-- The characters of a class that are followed by white space only, or by nothing, if there are no
others in front of them. -/
def lead? (cls : Char → Bool) : List Char → Option (List Char)
  | [] => none
  | c :: cs =>
    if cls c then if cs.all isBlank then some [c] else (lead? cls cs).map (c :: ·) else none

/-- The characters that `between` reads if it is to stop at the end of a text. -/
def core? (cls : Char → Bool) (cs : List Char) : Option (List Char) :=
  if cs.all isBlank then (cs.filter cls).getLast?.map fun c => [c]
  else if (trim cs).all cls then some (trim cs) else none

variable {cls : Char → Bool} {tail : List Char}

/-! ### Passing over white space -/

theorem most_of_visible (next : List Char → Option β) (htail : tail.head?.any isBlank = false) :
    most isBlank next tail = next tail := by
  cases tail with
  | nil => rfl
  | cons c tail =>
      have hc : isBlank c = false := htail
      simp [most, hc]

/-- If a search finds nothing before the end of `front`, it is worth something only if one gets
there. -/
theorem most_append {next : List Char → Option β} (htail : tail.head?.any isBlank = false)
    {front : List Char} (honly : ∀ s, s ≠ [] → s <:+ front → next (s ++ tail) = none) :
    most isBlank next (front ++ tail) = if front.all isBlank then next tail else none := by
  induction front with
  | nil => exact most_of_visible next htail
  | cons c front ih =>
      have hnext := honly (c :: front) (List.cons_ne_nil c front) List.suffix_rfl
      have hfront := ih fun s hs hsuffix => honly s hs (hsuffix.trans (List.suffix_cons c front))
      rw [List.cons_append] at hnext ⊢
      rw [most, hnext, hfront, Option.or_none, List.all_cons]
      cases isBlank c <;> rfl

/-! ### Reading characters -/

theorem fewest_of_stop (next : List Char → List Char → Option β)
    (hstop : tail.head?.any cls = false) (read : List Char) : fewest cls next read tail = none := by
  cases tail with
  | nil => rfl
  | cons c tail =>
      have hc : cls c = false := hstop
      simp [fewest, hc]

theorem fewest_congr {next next' : List Char → List Char → Option β} {cs read : List Char}
    (h : ∀ read' s, read' ++ s = read ++ cs → next read' s = next' read' s) :
    fewest cls next read cs = fewest cls next' read cs := by
  induction cs generalizing read with
  | nil => rfl
  | cons c cs ih =>
      have hhere := h (read ++ [c]) cs (by simp)
      have hlater : fewest cls next (read ++ [c]) cs = fewest cls next' (read ++ [c]) cs :=
        ih fun read' s hs => h read' s (by simpa using hs)
      rw [fewest, fewest, hhere, hlater]

theorem fewest_eq_none {next : List Char → List Char → Option β} {front : List Char}
    (hnone : ∀ read s, s <:+ front → next read (s ++ tail) = none)
    (hstop : tail.head?.any cls = false) (read : List Char) :
    fewest cls next read (front ++ tail) = none := by
  induction front generalizing read with
  | nil => exact fewest_of_stop next hstop read
  | cons c front ih =>
      have hfront := ih (fun read s hs => hnone read s (hs.trans (List.suffix_cons c front)))
      rw [List.cons_append, fewest, hnone _ front (List.suffix_cons c front), hfront]
      exact ite_self none

/-- What follows `between` finds something before `tail` and nowhere else in `front`. -/
structure OnlyBefore (next : List Char → List Char → Option β) (front tail : List Char)
    (found : List Char → β) : Prop where
  finds : ∀ read, next read tail = some (found read)
  fails : ∀ read s, s ≠ [] → s <:+ front → next read (s ++ tail) = none

theorem OnlyBefore.mono {next : List Char → List Char → Option β} {front front' : List Char}
    {found : List Char → β} (h : OnlyBefore next front tail found) (hsuffix : front' <:+ front) :
    OnlyBefore next front' tail found where
  finds := h.finds
  fails read s hs hs' := h.fails read s hs (hs'.trans hsuffix)

/-- Characters are read up to the white space in front of the place where the search goes on. -/
theorem fewest_append {next : List Char → List Char → Option β} {front : List Char}
    {found : List Char → β} (htail : tail.head?.any isBlank = false)
    (hstop : tail.head?.any cls = false) (h : OnlyBefore next front tail found)
    (read : List Char) :
    fewest cls (fun read => most isBlank (next read)) read (front ++ tail) =
      (lead? cls front).map fun more => found (read ++ more) := by
  induction front generalizing read with
  | nil => exact fewest_of_stop _ hstop read
  | cons c front ih =>
      have hrest := h.mono (List.suffix_cons c front)
      rw [List.cons_append, fewest, most_append htail (hrest.fails (read ++ [c])), h.finds,
        ih hrest, lead?]
      cases cls c with
      | false => rfl
      | true =>
          cases hblank : front.all isBlank with
          | true => rfl
          | false => cases lead? cls front <;> simp

/-! ### What is read -/

theorem trimEndOf_cons_of_visible {c : Char} {cs : List Char} (h : cs.all isBlank = false) :
    trimEndOf isBlank (c :: cs) = c :: trimEndOf isBlank cs := by
  have hne : (cs.reverse.dropWhile isBlank).isEmpty = false := by
    rw [List.isEmpty_eq_false_iff, Ne, List.dropWhile_eq_nil_iff]
    intro hblank
    refine Bool.eq_false_iff.mp h (List.all_eq_true.mpr fun d hd => ?_)
    exact hblank d (List.mem_reverse.mpr hd)
  rw [trimEndOf, List.reverse_cons, List.dropWhile_append, hne, if_neg Bool.false_ne_true,
    List.reverse_append, trimEndOf]
  rfl

theorem trimEndOf_cons_of_blank {c : Char} (hc : isBlank c = false) {cs : List Char}
    (h : cs.all isBlank = true) : trimEndOf isBlank (c :: cs) = [c] := by
  have happend := trimEndOf_append h [c]
  rw [List.singleton_append] at happend
  rw [happend]
  simp [trimEndOf, hc]

theorem lead?_of_visible {cs : List Char} (h : cs.all isBlank = false) :
    lead? cls cs =
      if (trimEndOf isBlank cs).all cls then some (trimEndOf isBlank cs) else none := by
  induction cs with
  | nil => cases h
  | cons c cs ih =>
      rw [lead?]
      cases hblank : cs.all isBlank with
      | true =>
          rw [List.all_cons, hblank, Bool.and_true] at h
          rw [trimEndOf_cons_of_blank h hblank]
          simp
      | false =>
          rw [ih hblank, trimEndOf_cons_of_visible hblank, List.all_cons]
          cases cls c with
          | false => rfl
          | true => cases (trimEndOf isBlank cs).all cls <;> rfl

theorem lead?_of_blank {c : Char} {cs : List Char} (h : cs.all isBlank = true) :
    lead? cls (c :: cs) = if cls c then some [c] else none := by
  rw [lead?, h, if_pos rfl]

theorem core?_of_visible {cs : List Char} (h : cs.all isBlank = false) :
    core? cls cs = if (trim cs).all cls then some (trim cs) else none := by
  rw [core?, h, if_neg Bool.false_ne_true]

theorem core?_cons_of_visible {c : Char} (hc : isBlank c = false) (cs : List Char) :
    core? cls (c :: cs) = lead? cls (c :: cs) := by
  have hvisible : (c :: cs).all isBlank = false := by
    rw [List.all_cons, hc]
    rfl
  have htrim : trim (c :: cs) = trimEndOf isBlank (c :: cs) := by simp [trim, trimStart, hc]
  rw [core?_of_visible hvisible, lead?_of_visible hvisible, htrim]

theorem core?_cons_of_blank {c : Char} (hc : isBlank c = true) (cs : List Char) :
    core? cls (c :: cs) = (core? cls cs).or (lead? cls (c :: cs)) := by
  cases hblank : cs.all isBlank with
  | true =>
      rw [lead?_of_blank hblank, core?, core?, List.all_cons, hc, hblank, if_pos rfl,
        Bool.and_self, if_pos rfl]
      cases hcls : cls c with
      | false => simp [hcls]
      | true =>
          simp only [List.filter_cons, hcls, if_true, List.getLast?_cons]
          cases (cs.filter cls).getLast? <;> rfl
  | false =>
      have hvisible : (c :: cs).all isBlank = false := by
        rw [List.all_cons, hc, hblank]
        rfl
      have htrim : trim (c :: cs) = trim cs := by simp [trim, trimStart, hc]
      rw [core?_of_visible hvisible, core?_of_visible hblank, lead?_of_visible hvisible, htrim]
      by_cases hall : (trim cs).all cls = true
      · rw [if_pos hall]
        rfl
      · -- The text with the white space in front of it does not fit either.
        have hlonger : ¬ (trimEndOf isBlank (c :: cs)).all cls = true := by
          intro hread
          have hinside := (isPadded_trim (trimEndOf isBlank (c :: cs))).isInfix
          rw [← (isPadded_trimEndOf (c :: cs)).trim_eq, htrim] at hinside
          exact hall (List.all_eq_true.mpr fun d hd =>
            List.all_eq_true.mp hread d (hinside.subset hd))
        rw [if_neg hall, if_neg hlonger]
        rfl

/-! ### The whole search -/

/-- With a place to go on from, `between` reads what lies between the white space in front of it. -/
theorem between_of_onlyBefore {next : List Char → List Char → Option β} {front : List Char}
    {found : List Char → β} (h : OnlyBefore next front tail found)
    (htail : tail.head?.any isBlank = false) (hstop : tail.head?.any cls = false) :
    between cls next (front ++ tail) = (core? cls front).map found := by
  induction front with
  | nil =>
      rw [List.nil_append, between, most_of_visible _ htail]
      exact fewest_of_stop _ hstop []
  | cons c front ih =>
      have hrest := ih (h.mono (List.suffix_cons c front))
      have hread := fewest_append htail hstop h []
      simp only [List.nil_append] at hread
      have hstep : between cls next (c :: front ++ tail) =
          if isBlank c then (between cls next (front ++ tail)).or
            (fewest cls (fun read => most isBlank (next read)) [] (c :: front ++ tail))
          else fewest cls (fun read => most isBlank (next read)) [] (c :: front ++ tail) := rfl
      rw [hstep, hrest, hread]
      -- What is read from `c` on only counts if passing over `c` leads nowhere.
      cases hc : isBlank c with
      | false => rw [if_neg Bool.false_ne_true, core?_cons_of_visible hc]
      | true =>
          rw [if_pos rfl, core?_cons_of_blank hc]
          cases core? cls front <;> rfl

theorem between_eq_none {next : List Char → List Char → Option β} {front : List Char}
    (hnone : ∀ read s, s <:+ front → next read (s ++ tail) = none)
    (htail : tail.head?.any isBlank = false) (hstop : tail.head?.any cls = false) :
    between cls next (front ++ tail) = none := by
  have hmost {s : List Char} (hs : s <:+ front) (read : List Char) :
      most isBlank (next read) (s ++ tail) = none := by
    rw [most_append htail fun s' _ hs' => hnone read s' (hs'.trans hs)]
    have htail := hnone read [] List.nil_suffix
    rw [List.nil_append] at htail
    rw [htail, ite_self]
  have hfewest {s : List Char} (hs : s <:+ front) :
      fewest cls (fun read => most isBlank (next read)) [] (s ++ tail) = none :=
    fewest_eq_none (fun read s' hs' => hmost (hs'.trans hs) read) hstop []
  have hstart : fewest cls (fun read => most isBlank (next read)) [] ([] ++ tail) = none :=
    hfewest List.nil_suffix
  rw [List.nil_append] at hstart
  rw [between, most_append htail fun s _ hs => hfewest hs, hstart, ite_self]

/-- What follows finds nothing in `front` but before `tail`. Then `between` reads what lies between
the white space of `front`, if that leads anywhere. -/
theorem between_append {γ : Type} {next : List Char → List Char → Option β} {front : List Char}
    {answer : Option γ} {found : List Char → γ → β}
    (hfinds : ∀ read, next read tail = answer.map (found read))
    (hfails : ∀ read s, s ≠ [] → s <:+ front → next read (s ++ tail) = none)
    (htail : tail.head?.any isBlank = false) (hstop : tail.head?.any cls = false) :
    between cls next (front ++ tail) =
      (core? cls front).bind fun read => answer.map (found read) := by
  cases answer with
  | some y =>
      have honly : OnlyBefore next front tail fun read => found read y := ⟨hfinds, hfails⟩
      rw [between_of_onlyBefore honly htail hstop]
      cases core? cls front <;> rfl
  | none =>
      rw [between_eq_none _ htail hstop]
      · cases core? cls front <;> rfl
      · intro read s hs
        by_cases hend : s = []
        · rw [hend, List.nil_append, hfinds]
          rfl
        · exact hfails read s hend hs

end Choices

end PartSearch.Text
