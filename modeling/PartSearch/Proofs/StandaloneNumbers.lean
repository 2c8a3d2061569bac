import PartSearch.Proofs.CutSteps
import PartSearch.Proofs.NumberText
import PartSearch.Proofs.WordOccurrences
import PartSearch.Query.Residue

/-!
# Numbers that stand alone

A bare number of a query is a run of digits with no word character beside it. The search looks at
the first such run only, `takeInteger?_eq_some_iff`: if that is too large, or zero, or in the digits
of another script, nothing is taken, and if it is a half of a decimal number it is taken all the
same. So what it takes is the first whole number in range just if no such run stands in front:
`takeInteger?_first`.
-/

namespace PartSearch

namespace Text.Pattern

/-! ### Where a search stops -/

section Search

variable {p : Pattern} {cs : List Char} {m : Found}

/-- The occurrence starts behind `front`, and none starts before it. -/
structure FirstAt (p : Pattern) (front rest : List Char) (m : Found) : Prop where
  occurs : p.at? front.reverse rest = some m
  before : ∀ a b, b ≠ [] → front = a ++ b → p.at? a.reverse (b ++ rest) = none

theorem exists_firstAt_of_findFrom? {passed : List Char}
    (hpassed : ∀ a b, b ≠ [] → passed = a ++ b → p.at? a.reverse (b ++ cs) = none)
    (h : p.findFrom? passed.reverse cs = some m) :
    ∃ front rest, passed ++ cs = front ++ rest ∧ FirstAt p front rest m := by
  induction cs generalizing passed with
  | nil => exact ⟨passed, [], rfl, h, hpassed⟩
  | cons c cs ih =>
      rw [findFrom?] at h
      cases hat : p.at? passed.reverse (c :: cs) with
      | some found =>
          rw [hat] at h
          obtain rfl := Option.some.inj h
          exact ⟨passed, c :: cs, rfl, hat, hpassed⟩
      | none =>
          rw [hat, ← List.reverse_concat] at h
          have hnext : ∀ a b, b ≠ [] → passed ++ [c] = a ++ b →
              p.at? a.reverse (b ++ cs) = none := by
            -- A place before the next one was passed over before, or is the one right before `c`.
            intro a b hb hab
            obtain ⟨d, b, rfl⟩ : ∃ d b', b = b' ++ [d] :=
              ⟨_, _, (List.dropLast_append_getLast hb).symm⟩
            rw [← List.append_assoc] at hab
            obtain ⟨rfl, hd⟩ := List.append_inj' hab rfl
            obtain rfl := List.singleton_inj.mp hd
            by_cases hempty : b = []
            · subst hempty
              simpa using hat
            · simpa using hpassed a b hempty rfl
          obtain ⟨front, rest, hwhole, hfirst⟩ := ih hnext h
          exact ⟨front, rest, by rw [← hwhole, List.append_assoc, List.singleton_append], hfirst⟩

theorem exists_firstAt_of_find? (h : p.find? cs = some m) :
    ∃ front rest, cs = front ++ rest ∧ FirstAt p front rest m :=
  @exists_firstAt_of_findFrom? p cs m []
    (fun _ _ hb hab => absurd (List.append_eq_nil_iff.mp hab.symm).2 hb) h

theorem at?_eq_none_of_findFrom? {passed : List Char} (h : p.findFrom? passed cs = none)
    (a b : List Char) (hcs : cs = a ++ b) : p.at? (a.reverse ++ passed) b = none := by
  induction a generalizing passed cs with
  | nil =>
      obtain rfl : cs = b := hcs
      cases cs with
      | nil => exact h
      | cons c cs =>
          rw [findFrom?] at h
          split at h
          · cases h
          · assumption
  | cons c a ih =>
      subst hcs
      rw [List.cons_append, findFrom?] at h
      split at h
      · cases h
      · simpa using ih h rfl

theorem at?_eq_none_of_find? (h : p.find? cs = none) (a b : List Char) (hcs : cs = a ++ b) :
    p.at? a.reverse b = none := by
  simpa using at?_eq_none_of_findFrom? h a b hcs

/-- Beside a word character there is an edge just if no other one is on the far side of it. -/
theorem isEdge_iff_of_after {before after : List Char} (h : after.head?.any isWordChar = true) :
    (Place.mk before after []).isEdge = true ↔ before.head?.any isWordChar = false := by
  rw [Place.isEdge]
  cases hbefore : before.head? <;> cases hafter : after.head? <;> simp_all

theorem isEdge_iff_of_before {before after : List Char} (h : before.head?.any isWordChar = true) :
    (Place.mk before after []).isEdge = true ↔ after.head?.any isWordChar = false := by
  rw [Place.isEdge]
  cases hbefore : before.head? <;> cases hafter : after.head? <;> simp_all

/-- A reading between edges also stops at one. -/
theorem stops_of_at? {before after : List Char} (h : (wordOf p).at? before after = some m) :
    (Place.mk (m.text.reverse ++ before) m.after []).isEdge = true := by
  obtain ⟨q, hq, rfl⟩ := Option.map_eq_some_iff.mp h
  have hmem := List.mem_of_head? hq
  obtain ⟨read, -, hadvances⟩ := (ends_passes hmem).reads
  have htext : after.take (after.length - q.after.length) = read := by
    simp [show after = read ++ q.after from hadvances.after]
  have hedge : q.isEdge = true := by
    obtain ⟨r, -, hr⟩ := List.mem_flatMap.mp hmem
    rw [ends] at hr
    split at hr
    · rename_i hedge
      rwa [List.mem_singleton.mp hr]
    · cases hr
  rw [htext, ← hadvances.before]
  exact hedge

end Search

end Text.Pattern

namespace Residue

open Text (isDigit isWordChar isBlank collapse Found Place)
open Text.Pattern

/-! ### Runs of digits -/

/-- A run of digits in a text with no word character beside it. -/
structure IsRun (cs before run after : List Char) : Prop where
  whole : cs = before ++ (run ++ after)
  ne_nil : run ≠ []
  all_digits : run.all isDigit = true
  left : before.getLast?.any isWordChar = false
  right : after.head?.any isWordChar = false

/-- A run that no other one stands in front of. -/
structure IsFirstRun (cs before run after : List Char) : Prop extends
    IsRun cs before run after where
  first : ∀ before' run' after', IsRun cs before' run' after' → before.length ≤ before'.length

section Runs

variable {cs before run after before' run' after' : List Char}

theorem head?_isWordChar (hne : run ≠ []) (hdigits : run.all isDigit = true) (rest : List Char) :
    (run ++ rest).head?.any isWordChar = true ∧
      (run.reverse ++ rest).head?.any isWordChar = true := by
  have hword (c : Char) (hc : c ∈ run) : isWordChar c = true :=
    Text.isWordChar_of_isDigit (List.all_eq_true.mp hdigits c hc)
  rw [List.head?_append_of_ne_nil _ hne,
    List.head?_append_of_ne_nil _ (List.reverse_ne_nil_iff.mpr hne), List.head?_reverse,
    List.head?_eq_some_head hne, List.getLast?_eq_some_getLast hne]
  exact ⟨hword _ (List.head_mem hne), hword _ (List.getLast_mem hne)⟩

theorem IsRun.at? (h : IsRun cs before run after) :
    (wordOf digits).at? before.reverse (run ++ after) = some ⟨before.reverse, run, after, []⟩ := by
  have hfirst : (Place.mk before.reverse (run ++ after) []).isEdge = true := by
    rw [isEdge_iff_of_after (head?_isWordChar h.ne_nil h.all_digits after).1, List.head?_reverse]
    exact h.left
  have hlast : (Place.mk (run.reverse ++ before.reverse) after []).isEdge = true := by
    rw [isEdge_iff_of_before (head?_isWordChar h.ne_nil h.all_digits before.reverse).2]
    exact h.right
  have hstop : after.head?.any isDigit = false := by
    have hright := h.right
    cases hhead : after.head? with
    | none => rfl
    | some d =>
        rw [hhead, Option.any_some] at hright
        rw [Option.any_some, ← Bool.not_eq_true]
        intro hd
        rw [Text.isWordChar_of_isDigit hd] at hright
        cases hright
  have hends : ((wordOf digits).ends ⟨before.reverse, run ++ after, []⟩).head? =
      some ⟨run.reverse ++ before.reverse, after, []⟩ := by
    have htakes := (Takes.many1_one h.ne_nil h.all_digits hstop) before.reverse []
    obtain ⟨more, hmore⟩ := List.head?_eq_some_iff.mp htakes
    change (((edge.ends _).flatMap digits.ends).flatMap edge.ends).head? = _
    rw [ends, if_pos hfirst, List.flatMap_singleton, Text.Pattern.digits, digit, hmore,
      List.flatMap_cons, List.nil_append, ends, if_pos hlast]
    rfl
  rw [Text.Pattern.at?, hends]
  simp

theorem isRun_of_at? {m : Found}
    (h : (wordOf digits).at? before.reverse cs = some m) :
    m.before = before.reverse ∧ IsRun (before ++ cs) before m.text m.after := by
  obtain ⟨hbefore, hfinds⟩ := finds_of_at? h
  obtain ⟨hne, hdigits⟩ := forall_of_reads_digits (reads_of_wordOf hfinds.reads)
  have hwhole := hfinds.whole
  rw [hbefore, List.reverse_reverse, List.append_assoc] at hwhole
  have hcs : m.text ++ m.after = cs := List.append_cancel_left hwhole
  have hall : m.text.all isDigit = true := List.all_eq_true.mpr hdigits
  have hstart := isEdge_of_at? h
  have hstop := stops_of_at? h
  rw [← hcs, isEdge_iff_of_after (head?_isWordChar hne hall m.after).1,
    List.head?_reverse] at hstart
  rw [isEdge_iff_of_before (head?_isWordChar hne hall before.reverse).2] at hstop
  exact ⟨hbefore, hwhole.symm, hne, hall, hstart, hstop⟩

theorem isFirstRun_of_find? {m : Found} (h : (wordOf digits).find? cs = some m) :
    IsFirstRun cs m.before.reverse m.text m.after := by
  obtain ⟨front, rest, rfl, hfirst⟩ := exists_firstAt_of_find? h
  obtain ⟨hbefore, hrun⟩ := isRun_of_at? hfirst.occurs
  rw [hbefore, List.reverse_reverse]
  refine ⟨hrun, fun before' run' after' hrun' => ?_⟩
  by_contra hshort
  obtain ⟨between, rfl⟩ : before' <+: front := by
    refine List.prefix_of_prefix_length_le ?_ (List.prefix_append front rest) (by omega)
    rw [hrun'.whole]
    exact List.prefix_append _ _
  have hne : between ≠ [] := by
    rintro rfl
    simp at hshort
  have hwhole := hrun'.whole
  rw [List.append_assoc, List.append_cancel_left_eq] at hwhole
  have hnone := hfirst.before before' between hne rfl
  rw [hwhole, hrun'.at?] at hnone
  cases hnone

theorem not_isRun_of_find? (h : (wordOf digits).find? cs = none) : ¬ IsRun cs before run after := by
  intro hrun
  have hnone := at?_eq_none_of_find? h before (run ++ after) hrun.whole
  rw [hrun.at?] at hnone
  cases hnone

/-- A run that starts at a place ends at one place only. -/
theorem IsRun.unique (h : IsRun cs before run after) (h' : IsRun cs before run' after') :
    run = run' ∧ after = after' := by
  have hrest := List.append_cancel_left (h.whole.symm.trans h'.whole)
  have hat := h'.at?
  rw [← hrest, h.at?] at hat
  injection hat with hfound
  injection hfound with _ hrun hafter _
  exact ⟨hrun, hafter⟩

theorem IsFirstRun.unique (h : IsFirstRun cs before run after)
    (h' : IsFirstRun cs before' run' after') : before = before' ∧ run = run' ∧ after = after' := by
  have hlength : before.length = before'.length :=
    Nat.le_antisymm (h.first _ _ _ h'.toIsRun) (h'.first _ _ _ h.toIsRun)
  obtain ⟨rfl, -⟩ := List.append_inj (h.whole.symm.trans h'.whole) hlength
  exact ⟨rfl, h.toIsRun.unique h'.toIsRun⟩

theorem exists_isFirstRun (h : IsRun cs before run after) :
    ∃ before run after, IsFirstRun cs before run after := by
  cases hfind : (wordOf digits).find? cs with
  | none => exact absurd h (not_isRun_of_find? hfind)
  | some m => exact ⟨_, _, _, isFirstRun_of_find? hfind⟩

theorem IsFirstRun.find? (h : IsFirstRun cs before run after) :
    ∃ m, (wordOf digits).find? cs = some m ∧
      m.before.reverse = before ∧ m.text = run ∧ m.after = after := by
  cases hfind : (wordOf digits).find? cs with
  | none => exact absurd h.toIsRun (not_isRun_of_find? hfind)
  | some m => exact ⟨m, rfl, (isFirstRun_of_find? hfind).unique h⟩

end Runs

/-! ### Numbers -/

/-- A run is the number in the usual ten digits. -/
structure Spells (run : List Char) (n : Nat) : Prop where
  ascii : ∀ c ∈ run, c.isDigit = true
  value : Nat.ofDigitChars 10 run 0 = n

theorem digitsValue?_eq_some_iff {run : List Char} {n : Nat} :
    Decimal.digitsValue? 0 run = some n ↔ Spells run n := by
  constructor
  · intro h
    have hascii := isDigit_of_digitsValue? h
    rw [digitsValue?_eq_foldl hascii] at h
    exact ⟨hascii, Option.some.inj h⟩
  · rintro ⟨hascii, rfl⟩
    exact digitsValue?_eq_foldl hascii 0

def InRange (max n : Nat) : Prop := 1 ≤ n ∧ n ≤ max

/-- The text without what stands between two parts of it. -/
def without (before after : List Char) : String :=
  String.ofList (collapse (before ++ ' ' :: after))

/-- The search looks at the first run, whatever it is. -/
theorem takeInteger?_eq_some_iff {max n : Nat} {text rest : String} :
    takeInteger? max text = some (n, rest) ↔
      ∃ before run after, IsFirstRun text.toList before run after ∧ Spells run n ∧
        InRange max n ∧ rest = without before after := by
  constructor
  · intro h
    obtain ⟨m, hfind, h⟩ := Option.bind_eq_some_iff.mp h
    obtain ⟨value, hvalue, h⟩ := Option.bind_eq_some_iff.mp h
    split at h
    · rename_i hrange
      obtain ⟨rfl, rfl⟩ := Prod.mk.injEq .. ▸ Option.some.inj h
      exact ⟨_, _, _, isFirstRun_of_find? hfind, digitsValue?_eq_some_iff.mp hvalue,
        by simpa [InRange] using hrange, rfl⟩
    · cases h
  · rintro ⟨before, run, after, hfirst, hspells, hrange, rfl⟩
    obtain ⟨m, hfind, rfl, rfl, rfl⟩ := hfirst.find?
    have hvalue := digitsValue?_eq_some_iff.mpr hspells
    rw [InRange] at hrange
    simp [takeInteger?, hfind, hvalue, hrange, Found.remove, without]

/-! ### Whole numbers -/

/-- The place between two parts of a text is in a decimal number such as 2.5, at the digits before
its point or at those behind it. -/
def InDecimal (before after : List Char) : Prop :=
  (∃ front d, before = front ++ [d, '.'] ∧ d.isDigit = true) ∨
    ∃ d rest, after = '.' :: d :: rest ∧ d.isDigit = true

/-- A run that is a number on its own. -/
structure IsWholeNumber (cs before run after : List Char) (n : Nat) : Prop extends
    IsRun cs before run after where
  spells : Spells run n
  free : ¬ InDecimal before after

/-- An answer is the first whole number of a text that is in range and the text without it, or
nothing if there is no such number. -/
def IsFirstInRange (max : Nat) (text : String) : Option (Nat × String) → Prop
  | none => ∀ before run after n, IsWholeNumber text.toList before run after n → ¬ InRange max n
  | some (n, rest) => ∃ before run after,
      IsWholeNumber text.toList before run after n ∧ InRange max n ∧ rest = without before after ∧
        ∀ before' run' after' n', IsWholeNumber text.toList before' run' after' n' →
          InRange max n' → before.length ≤ before'.length

section Without

variable {before after rest : List Char} {c : Char}

theorem head?_collapse_cons (hc : isBlank c = false) (cs : List Char) :
    (collapse (c :: cs)).head? = some c := by
  cases cs with
  | nil => rw [Text.collapse_singleton hc, List.head?_cons]
  | cons d cs =>
      cases hd : isBlank d with
      | true => rw [Text.collapse_cons_of_end hc hd, List.head?_cons]
      | false => rw [Text.collapse_cons_cons hc hd, List.head?_cons]

theorem spaced_ne_collapse_cons (hc : isBlank c = false) (cs : List Char) :
    Text.spaced after ≠ collapse (c :: cs) := by
  intro heq
  have hhead := congrArg List.head? heq
  rw [head?_collapse_cons hc, Text.spaced] at hhead
  split at hhead
  · cases hhead
  · obtain rfl := Option.some.inj hhead
    cases hc

theorem spaced_injective {cs ds : List Char} (h : Text.spaced cs = Text.spaced ds) : cs = ds := by
  unfold Text.spaced at h
  split at h <;> split at h <;> simp_all

/-- A visible character is not lost where a text is cut behind another one, nor where it is cut in
front of a different one. -/
theorem collapse_cut_ne (hc : isBlank c = false)
    (h : before.getLast?.any (!isBlank ·) = true ∨
      ∃ d after', after = d :: after' ∧ isBlank d = false ∧ d ≠ c) :
    collapse (before ++ ' ' :: after) ≠ collapse (before ++ c :: rest) := by
  induction before with
  | nil =>
      obtain ⟨d, after', rfl, hd, hne⟩ := h.resolve_left (by simp)
      rw [List.nil_append, List.nil_append, Text.collapse_cons_of_blank (by decide)]
      intro heq
      have hhead := congrArg List.head? heq
      rw [head?_collapse_cons hc, head?_collapse_cons hd] at hhead
      exact hne (Option.some.inj hhead)
  | cons e before ih =>
      cases before with
      | nil =>
          cases he : isBlank e with
          | true =>
              simp only [List.cons_append, Text.collapse_cons_of_blank he]
              exact ih (h.imp_left fun hlast => by simp [he] at hlast)
          | false =>
              simp only [List.cons_append, List.nil_append]
              rw [Text.collapse_cons_of_end he (by decide), Text.collapse_cons_cons he hc, Ne,
                List.cons.injEq, not_and]
              exact fun _ => spaced_ne_collapse_cons hc rest
      | cons f before =>
          rw [List.getLast?_cons_cons] at h
          have hnext := ih h
          simp only [List.cons_append] at hnext ⊢
          cases he : isBlank e with
          | true => rwa [Text.collapse_cons_of_blank he, Text.collapse_cons_of_blank he]
          | false =>
              cases hf : isBlank f with
              | false =>
                  rw [Text.collapse_cons_cons he hf, Text.collapse_cons_cons he hf, Ne,
                    List.cons.injEq, not_and]
                  exact fun _ => hnext
              | true =>
                  rw [Text.collapse_cons_of_blank hf, Text.collapse_cons_of_blank hf] at hnext
                  rw [Text.collapse_cons_of_end he hf, Text.collapse_cons_of_end he hf, Ne,
                    List.cons.injEq, not_and]
                  exact fun _ heq => hnext (spaced_injective heq)

end Without

section Numbers

variable {cs before run after before' run' after' : List Char} {max n n' : Nat}

theorem Spells.unique (h : Spells run n) (h' : Spells run n') : n = n' :=
  h.value.symm.trans h'.value

theorem isBlank_eq_false_of_isDigit {c : Char} (h : c.isDigit = true) : isBlank c = false := by
  have htable : figures.all (!isBlank ·) = true := by decide +kernel
  simpa using List.all_eq_true.mp htable c (mem_figures_of_isDigit h)

/-- A first run that is a half of a decimal number leaves another text than any run behind it. -/
theorem InDecimal.without_ne (hdecimal : InDecimal before after)
    (hfirst : IsFirstRun cs before run after) (hascii : ∀ c ∈ run, c.isDigit = true)
    (hrun : IsRun cs before' run' after') (hother : before ≠ before') :
    without before after ≠ without before' after' := by
  obtain ⟨between, rfl⟩ : before <+: before' :=
    List.prefix_of_prefix_length_le ⟨run ++ after, hfirst.whole.symm⟩
      ⟨run' ++ after', hrun.whole.symm⟩ (hfirst.first _ _ _ hrun)
  obtain ⟨c, digits, rfl⟩ := List.exists_cons_of_ne_nil hfirst.ne_nil
  have hc : c.isDigit = true := hascii c List.mem_cons_self
  obtain ⟨between, rfl⟩ : ∃ rest, between = c :: rest := by
    have hwhole := hfirst.whole.symm.trans hrun.whole
    rw [List.append_assoc, List.append_cancel_left_eq] at hwhole
    cases between with
    | nil => simp at hother
    | cons d rest => exact ⟨rest, by rw [List.cons_append, List.cons_append] at hwhole; simp_all⟩
  intro heq
  have hcut := String.ofList_injective heq
  rw [List.append_assoc, List.cons_append] at hcut
  refine collapse_cut_ne (isBlank_eq_false_of_isDigit hc) ?_ hcut
  rcases hdecimal with ⟨front, d, rfl, -⟩ | ⟨d, rest, rfl, -⟩
  · exact Or.inl (by simp; decide)
  · refine Or.inr ⟨'.', _, rfl, by decide, ?_⟩
    rintro rfl
    cases hc

end Numbers

/-- The search looks at the first run of digits, whatever it is. So what it takes is the first whole
number in range just if that run is one, or if neither it nor any whole number is in range. -/
theorem takeInteger?_first (max : Nat) (text : String) :
    (∀ n rest, takeInteger? max text = some (n, rest) ↔
      ∃ before run after, IsFirstRun text.toList before run after ∧ Spells run n ∧
        InRange max n ∧ rest = without before after) ∧
    (IsFirstInRange max text (takeInteger? max text) ↔
      ∀ before run after, IsFirstRun text.toList before run after →
        (∃ n, IsWholeNumber text.toList before run after n ∧ InRange max n) ∨
          (∀ n, Spells run n → ¬ InRange max n) ∧ IsFirstInRange max text none) := by
  refine ⟨fun _ _ => takeInteger?_eq_some_iff, ?_⟩
  cases htake : takeInteger? max text with
  | none =>
      have hnone {before run after : List Char} {n : Nat}
          (hfirst : IsFirstRun text.toList before run after) (hspells : Spells run n) :
          ¬ InRange max n := by
        intro hrange
        have htaken := takeInteger?_eq_some_iff.mpr ⟨_, _, _, hfirst, hspells, hrange, rfl⟩
        rw [htake] at htaken
        cases htaken
      constructor
      · exact fun hnumbers before run after hfirst => Or.inr ⟨fun n => hnone hfirst, hnumbers⟩
      · intro h before run after n hnumber hrange
        obtain ⟨first, digits, rest, hfirst⟩ := exists_isFirstRun hnumber.toIsRun
        rcases h first digits rest hfirst with ⟨k, hwhole, hk⟩ | ⟨-, hnumbers⟩
        · exact hnone hfirst hwhole.spells hk
        · exact hnumbers _ _ _ n hnumber hrange
  | some answer =>
      obtain ⟨n, rest⟩ := answer
      obtain ⟨before, run, after, hfirst, hspells, hrange, rfl⟩ := takeInteger?_eq_some_iff.mp htake
      constructor
      · rintro ⟨before', run', after', hnumber, -, hrest, -⟩ front digits back hfront
        obtain ⟨rfl, rfl, rfl⟩ := hfront.unique hfirst
        refine Or.inl ⟨n, ⟨hfirst.toIsRun, hspells, fun hdecimal => ?_⟩, hrange⟩
        by_cases hsame : front = before'
        · subst hsame
          obtain ⟨-, rfl⟩ := hnumber.toIsRun.unique hfirst.toIsRun
          exact hnumber.free hdecimal
        · exact hdecimal.without_ne hfirst hspells.ascii hnumber.toIsRun hsame hrest
      · intro h
        rcases h before run after hfirst with ⟨k, hwhole, hk⟩ | ⟨hnot, -⟩
        · obtain rfl := hspells.unique hwhole.spells
          exact ⟨before, run, after, hwhole, hrange, rfl,
            fun _ _ _ _ hnumber _ => hfirst.first _ _ _ hnumber.toIsRun⟩
        · exact absurd hrange (hnot n hspells)

/-- A number that is too large hides the one behind it. -/
theorem takeInteger?_threeHundred_four : takeInteger? 200 "300 4" = none ∧
    ¬ IsFirstInRange 200 "300 4" (takeInteger? 200 "300 4") := by
  have htake : takeInteger? 200 "300 4" = none := by decide +kernel
  have hfour : IsWholeNumber "300 4".toList "300 ".toList ['4'] [] 4 := {
    whole := by decide
    ne_nil := by decide
    all_digits := by decide
    left := by decide +kernel
    right := by decide
    spells := ⟨List.forall_mem_singleton.mpr rfl, rfl⟩
    free := by
      rintro (⟨front, d, hbefore, -⟩ | ⟨d, rest, hafter, -⟩)
      · have hlast := congrArg List.getLast? hbefore
        simp at hlast
      · cases hafter }
  refine ⟨htake, fun h => ?_⟩
  rw [htake] at h
  exact h _ _ _ 4 hfour ⟨by decide, by decide⟩

-- The whole part of a decimal number is taken from it.
example : takeInteger? 200 "2.5 8" = some (2, ".5 8") := by decide +kernel

end Residue

end PartSearch
