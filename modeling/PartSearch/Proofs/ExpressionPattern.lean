import PartSearch.Filter.Basic
import PartSearch.Proofs.Backtracking
import PartSearch.Proofs.FilterExpressions
import PartSearch.Proofs.PatternReading

/-!
# Expressions as a pattern

The grammar of an expression is a single pattern: a name, a symbol and a value, with white space
around each of them. `parse` does not run it, but takes the expression apart at its first operator
character. What it takes is what the matcher finds first, `parse_eq_find?`, also where white space
has to be given back or a longer symbol leaves no value.

For that, a pattern is seen as a search: `Pattern.seek` asks for the first place behind it from
which the rest of the search gets on, and `Pattern.Runs` says that this is done by a function on
texts. The functions compose as the patterns do, `Runs.seq`, so that the search for an expression is
one for a name and one for a value, each of the kind that `between` is.
-/

namespace PartSearch.Text.Pattern

/-! ### Patterns as searches -/

section Searches

variable {β : Type}

/-- From one to `limit` characters of a class, as few as possible preferred. -/
def few (cls : Char → Bool) : Nat → Pattern
  | 0 => never
  | limit + 1 => one cls ++ either nothing (few cls limit)

/-- The texts that are noted at a place, with their numbers. -/
def noted (captures : List Capture) : List (Nat × List Char) :=
  captures.map fun c => (c.number, c.text)

/-- The rest of a search, from the text that is left and the texts that are noted. -/
abbrev Next (β : Type) := List Char → List (Nat × List Char) → Option β

/-- The first place behind the pattern that `next` makes something of. -/
def seek (p : Pattern) (next : Next β) (a : Place) : Option β :=
  (p.ends a).findSome? fun b => next b.after (noted b.captures)

/-- On texts of limited length, a search behind the pattern is `run`. -/
def Runs (p : Pattern) (limit : Nat) (run : Next β → Next β) : Prop :=
  ∀ next a, a.after.length ≤ limit → p.seek next a = run next a.after (noted a.captures)

theorem findSome?_flatMap {α γ : Type} (f : α → List γ) (g : γ → Option β) (xs : List α) :
    (xs.flatMap f).findSome? g = xs.findSome? fun x => (f x).findSome? g := by
  induction xs with
  | nil => rfl
  | cons x xs ih =>
      rw [List.flatMap_cons, List.findSome?_append, ih, List.findSome?_cons]
      cases (f x).findSome? g <;> rfl

theorem findSome?_congr {α : Type} {f g : α → Option β} {xs : List α}
    (h : ∀ x ∈ xs, f x = g x) : xs.findSome? f = xs.findSome? g := by
  induction xs with
  | nil => rfl
  | cons x xs ih =>
      rw [List.findSome?_cons, List.findSome?_cons, h x List.mem_cons_self,
        ih fun y hy => h y (List.mem_cons_of_mem x hy)]

theorem length_after_le {p : Pattern} {a b : Place} (h : b ∈ p.ends a) :
    b.after.length ≤ a.after.length := by
  obtain ⟨read, -, hadvances⟩ := (ends_passes h).reads
  rw [hadvances.after, List.length_append]
  omega

/-- One pattern behind the other is one search within the other. -/
theorem Runs.seq {p q : Pattern} {limit : Nat} {run run' : Next β → Next β}
    (hp : p.Runs limit run) (hq : q.Runs limit run') :
    (p ++ q).Runs limit fun next => run (run' next) := by
  intro next a ha
  have hbehind : ∀ b ∈ p.ends a, q.seek next b = run' next b.after (noted b.captures) :=
    fun b hb => hq next b ((length_after_le hb).trans ha)
  calc (p ++ q).seek next a
      = (p.ends a).findSome? (q.seek next) := findSome?_flatMap _ _ _
    _ = p.seek (run' next) a := findSome?_congr hbehind
    _ = run (run' next) a.after (noted a.captures) := hp (run' next) a ha

theorem ends_one_nil (cls : Char → Bool) {a : Place} (h : a.after = []) :
    (one cls).ends a = [] := by
  rw [ends, h]

theorem ends_one_cons (cls : Char → Bool) {a : Place} {c : Char} {after : List Char}
    (h : a.after = c :: after) : (one cls).ends a =
      if cls c then [{ a with before := c :: a.before, after := after }] else [] := by
  rw [ends, h]

theorem runs_many_one (cls : Char → Bool) (limit : Nat) :
    (many (one cls)).Runs (β := β) limit fun next after notes =>
      most cls (fun rest => next rest notes) after := by
  rintro next a -
  change (repeatInto (one cls).ends a.after.length a []).findSome? _ = _
  generalize hafter : a.after = after
  induction after generalizing a with
  | nil => simp [repeatInto, most, hafter]
  | cons c after ih =>
      rw [List.length_cons, repeatInto_succ, List.findSome?_append, findSome?_flatMap,
        ends_one_cons cls hafter]
      cases hc : cls c with
      | false => simp [most, hafter, hc]
      | true =>
          have hstep := ih { a with before := c :: a.before, after := after } rfl
          simp [most, hafter, hc, hstep]

theorem seek_few (cls : Char → Bool) {limit : Nat} (next : Next β) {a : Place}
    (ha : a.after.length ≤ limit) (read : List Char) :
    (few cls limit).seek next a =
      fewest cls (fun _ rest => next rest (noted a.captures)) read a.after := by
  -- The limit goes down with the text, so it does not end the search before the text does.
  induction limit generalizing a read with
  | zero =>
      have hafter : a.after = [] := List.eq_nil_of_length_eq_zero (Nat.le_zero.mp ha)
      rw [seek, few, never, ends_one_nil _ hafter, hafter]
      rfl
  | succ limit ih =>
      change (((one cls).ends a).flatMap fun b => b :: (few cls limit).ends b).findSome? _ = _
      cases hafter : a.after with
      | nil =>
          rw [ends_one_nil cls hafter]
          rfl
      | cons c after =>
          rw [ends_one_cons cls hafter, fewest]
          cases hc : cls c with
          | false => rfl
          | true =>
              let b : Place := { a with before := c :: a.before, after := after }
              have hb : b.after.length ≤ limit := by
                rw [hafter, List.length_cons] at ha
                exact Nat.le_of_succ_le_succ ha
              have hrest := ih hb (read ++ [c])
              rw [seek] at hrest
              rw [if_pos rfl, if_pos rfl, List.flatMap_singleton, List.findSome?_cons, hrest]
              cases next after (noted a.captures) <;> rfl

theorem seek_capture (number : Nat) (p : Pattern) (next : Next β) (a : Place) :
    (capture number p).seek next a =
      p.seek (fun after notes =>
        next after ((number, a.after.take (a.after.length - after.length)) :: notes)) a := by
  rw [seek, ends, List.findSome?_map]
  rfl

theorem runs_capture_few (number : Nat) (cls : Char → Bool) (limit : Nat) :
    (capture number (few cls limit)).Runs (β := β) limit fun next after notes =>
      fewest cls (fun read rest => next rest ((number, read) :: notes)) [] after := by
  intro next a ha
  rw [seek_capture, seek_few cls _ ha []]
  -- The capture is cut out of the whole text; what is read and what is left make it up.
  refine fewest_congr fun read rest hwhole => ?_
  rw [List.nil_append] at hwhole
  simp [← hwhole]

theorem runs_finish (limit : Nat) :
    finish.Runs (β := β) limit fun next after notes =>
      if after.isEmpty then next after notes else none := by
  intro next a _
  simp only [seek, ends]
  cases a.after.isEmpty <;> simp

theorem ends_anyOf (ps : List Pattern) (a : Place) :
    (anyOf ps).ends a = ps.flatMap fun p => p.ends a := by
  induction ps with
  | nil => cases h : a.after <;> simp [anyOf, never, ends, h]
  | cons p ps ih =>
      cases ps with
      | nil => simp [anyOf]
      | cons q ps =>
          change p.ends a ++ (anyOf (q :: ps)).ends a = _
          rw [ih]
          rfl

theorem runs_capture_anyOf_exact (number : Nat) (texts : List String) (limit : Nat) :
    (capture number (anyOf (texts.map exact))).Runs (β := β) limit fun next after notes =>
      texts.findSome? fun text => if text.toList.isPrefixOf after then
        next (after.drop text.length) ((number, text.toList) :: notes) else none := by
  intro next a _
  rw [seek_capture, seek, ends_anyOf, findSome?_flatMap, List.findSome?_map]
  refine findSome?_congr fun text _ => ?_
  simp only [Function.comp_apply, exact, ends_chars]
  split
  · rename_i hprefix
    obtain ⟨rest, hrest⟩ := List.isPrefixOf_iff_prefix.mp hprefix
    have hdrop : (text.toList ++ rest).drop text.length = rest := by
      rw [← String.length_toList, List.drop_left]
    simp [← hrest, hdrop]
  · rfl

/-! ### Searches from the start of a text -/

theorem find?_start_append (p : Pattern) (cs : List Char) :
    (start ++ p).find? cs = p.at? [] cs := by
  have hlater (c : Char) (before after : List Char) :
      (start ++ p).findFrom? (c :: before) after = none := by
    induction after generalizing c before with
    | nil => rfl
    | cons d after ih => exact ih d (c :: before)
  have hhere : (start ++ p).at? [] cs = p.at? [] cs := by
    change ([_].flatMap p.ends).head?.map _ = _
    rw [List.flatMap_singleton]
    rfl
  cases cs with
  | nil => exact hhere
  | cons c cs =>
      rw [find?, findFrom?, hhere, hlater]
      cases p.at? [] (c :: cs) <;> rfl

theorem noted_of_at? (p : Pattern) (before after : List Char) :
    (p.at? before after).map (fun m => noted m.captures) =
      p.seek (fun _ notes => some notes) { before, after } := by
  rw [at?, seek, Option.map_map]
  cases p.ends { before, after } <;> rfl

/-- The text that was noted last under a number, nothing if there is none. -/
def textOf (notes : List (Nat × List Char)) (number : Nat) : List Char :=
  ((notes.find? (·.1 == number)).map Prod.snd).getD []

theorem textOf_noted (m : Found) (number : Nat) :
    textOf (noted m.captures) number = m.capture number := by
  rw [textOf, noted, List.find?_map, Option.map_map]
  rfl

end Searches

end PartSearch.Text.Pattern

namespace PartSearch.SpecFilter

open Text Text.Pattern

/-- A name, a symbol and a value, with white space around each of them. Name and value are as short
as the rest permits; `limit` is a bound on their lengths. -/
def expressionPattern (limit : Nat) : Pattern :=
  start ++ (blanks ++ capture 1 (few (fun c => !isSymbolChar c) limit) ++
    blanks ++ capture 2 (anyOf (symbols.map exact)) ++
    blanks ++ capture 3 (few (· != '\n') limit) ++ blanks ++ finish)

/-! ### Name, symbol and value

The search for an expression, part by part; `found` is what is made of the parts. -/

def seekValue {β : Type} (found : List Char → β) (back : List Char) : Option β :=
  between (· != '\n') (fun value rest => if rest.isEmpty then some (found value) else none) back

def seekSymbol {β : Type} (found : String → List Char → β) (behind : List Char) : Option β :=
  symbols.findSome? fun symbol =>
    if symbol.toList.isPrefixOf behind then
      seekValue (found symbol) (behind.drop symbol.length)
    else none

def seekName {β : Type} (found : List Char → String → List Char → β) (cs : List Char) : Option β :=
  between (fun c => !isSymbolChar c) (fun name => seekSymbol (found name)) cs

/-- The pattern is run as the search for a name, which contains the one for a symbol and a value. -/
theorem notes_of_find? (expression : String) :
    ((expressionPattern expression.length).find? expression.toList).map
        (fun m => noted m.captures) =
      seekName (fun name symbol value => [(3, value), (2, symbol.toList), (1, name)])
        expression.toList := by
  rw [expressionPattern, find?_start_append, noted_of_at?]
  have hblanks := runs_many_one (β := List (Nat × List Char)) isBlank expression.length
  have hname := (hblanks.seq (runs_capture_few 1 (fun c => !isSymbolChar c) _)).seq hblanks
  have hsymbol := (hname.seq (runs_capture_anyOf_exact 2 symbols _)).seq hblanks
  have hvalue := (hsymbol.seq (runs_capture_few 3 (· != '\n') _)).seq hblanks
  exact hvalue.seq (runs_finish _) _ ⟨[], expression.toList, []⟩ String.length_toList.le

theorem seekValue_eq {β : Type} (found : List Char → β) (back : List Char) :
    seekValue found back = (valueOf? back).map found := by
  have hvalue : core? (· != '\n') back = valueOf? back := by
    cases hblank : back.all isBlank with
    | true => simp [core?, valueOf?, hblank]
    | false =>
        rw [core?_of_visible hblank, valueOf?, hblank, if_neg Bool.false_ne_true]
        by_cases hline : '\n' ∈ trim back
        · have hstops : ¬ (trim back).all (· != '\n') = true := fun hall => by
            simpa using List.all_eq_true.mp hall '\n' hline
          rw [if_neg hstops]
          simp [hline]
        · have hreads : (trim back).all (· != '\n') = true :=
            List.all_eq_true.mpr fun c hc => bne_iff_ne.mpr fun h => hline (h ▸ hc)
          rw [if_pos hreads]
          simp [hline]
  -- The search goes on from the end of the text only.
  have hbetween : seekValue found (back ++ []) =
      (core? (· != '\n') back).bind fun value => (some ()).map fun _ => found value :=
    between_append (fun _ => rfl) (fun _ s hs _ => by simp [hs]) rfl rfl
  rw [List.append_nil, hvalue] at hbetween
  rw [hbetween]
  cases valueOf? back <;> rfl

theorem seekSymbol_eq {β : Type} (found : String → List Char → β) (behind : List Char) :
    seekSymbol found behind = (splitSymbol? behind).map fun split => found split.1 split.2 := by
  rw [seekSymbol, splitSymbol?, List.map_findSome?]
  refine findSome?_congr fun symbol _ => ?_
  rw [Function.comp_apply, seekValue_eq]
  split
  · rw [Option.map_map]
    rfl
  · rfl

/-- No symbol starts with a character of a name. -/
theorem seekSymbol_eq_none {β : Type} (found : String → List Char → β) {c : Char}
    (hc : isSymbolChar c = false) (rest : List Char) : seekSymbol found (c :: rest) = none := by
  rw [seekSymbol, List.findSome?_eq_none_iff]
  intro symbol hsymbol
  obtain ⟨d, ds, hchars, hd⟩ := isSymbolChar_of_mem_symbols hsymbol
  have hother : (d == c) = false := beq_eq_false_iff_ne.mpr fun h => by
    rw [h, hc] at hd
    cases hd
  rw [hchars, List.isPrefixOf_cons_cons, hother, Bool.false_and, if_neg Bool.false_ne_true]

theorem core?_front {front : List Char} (h : ∀ c ∈ front, isSymbolChar c = false) :
    core? (fun c => !isSymbolChar c) front =
      if front.isEmpty then none else some (middle front) := by
  cases hblank : front.all isBlank with
  | true =>
      have hkept : front.filter (fun c => !isSymbolChar c) = front :=
        List.filter_eq_self.mpr fun c hc => by rw [h c hc]; rfl
      rw [core?, middle, hblank, if_pos rfl, if_pos rfl, hkept]
      rcases List.eq_nil_or_concat front with rfl | ⟨before, c, rfl⟩
      · rfl
      · simp
  | false =>
      have hne : front ≠ [] := fun hnil => by
        rw [hnil] at hblank
        cases hblank
      have hreads : (trim front).all (fun c => !isSymbolChar c) = true :=
        List.all_eq_true.mpr fun c hc => by rw [h c ((isPadded_trim front).isInfix.subset hc)]; rfl
      rw [core?_of_visible hblank, if_pos hreads, middle_of_visible hblank,
        List.isEmpty_eq_false_iff.mpr hne, if_neg Bool.false_ne_true]

theorem isBlank_eq_false_of_isSymbolChar {c : Char} (h : isSymbolChar c = true) :
    isBlank c = false := by
  simp only [isSymbolChar, Bool.or_eq_true, decide_eq_true_eq] at h
  rcases h with ((rfl | rfl) | rfl) | rfl <;> decide

theorem seekName_append {β : Type} (found : List Char → String → List Char → β)
    {front behind : List Char} (hfree : ∀ c ∈ front, isSymbolChar c = false)
    (hstop : ∀ c ∈ behind.head?, isSymbolChar c = true) :
    seekName found (front ++ behind) =
      if front.isEmpty then none
      else (splitSymbol? behind).map fun split => found (middle front) split.1 split.2 := by
  have hend : behind.head?.any (fun c => !isSymbolChar c) = false := by
    cases hhead : behind.head? with
    | none => rfl
    | some c =>
        rw [Option.any_some, hstop c hhead]
        rfl
  have hvisible : behind.head?.any isBlank = false := by
    cases hhead : behind.head? with
    | none => rfl
    | some c => exact isBlank_eq_false_of_isSymbolChar (hstop c hhead)
  have hfails : ∀ name s, s ≠ [] → s <:+ front →
      seekSymbol (found name) (s ++ behind) = none := by
    intro name s hs hsuffix
    obtain ⟨c, s, rfl⟩ := List.exists_cons_of_ne_nil hs
    exact seekSymbol_eq_none (found name) (hfree c (hsuffix.subset List.mem_cons_self)) _
  rw [seekName, between_append (fun name => seekSymbol_eq (found name) behind) hfails hvisible hend,
    core?_front hfree]
  cases front.isEmpty <;> rfl

theorem seekName_eq {β : Type} (found : List Char → String → List Char → β) (cs : List Char) :
    seekName found cs =
      if (cs.takeWhile fun c => !isSymbolChar c).isEmpty then none
      else (splitSymbol? (cs.dropWhile fun c => !isSymbolChar c)).map fun split =>
        found (middle (cs.takeWhile fun c => !isSymbolChar c)) split.1 split.2 := by
  have hstop := List.head?_dropWhile_not (fun c => !isSymbolChar c) cs
  rw [← seekName_append found (fun c hc => by simpa using List.mem_takeWhile_imp hc),
    List.takeWhile_append_dropWhile]
  intro c hc
  rw [Option.mem_def.mp hc] at hstop
  simpa using hstop

/-- An expression is read as the first occurrence of its pattern. -/
theorem parse_eq_find? (expression : String) :
    parse expression =
      match (expressionPattern expression.length).find? expression.toList with
      | some m =>
        ofSymbol (String.ofList (m.capture 1)) (String.ofList (m.capture 2))
          (String.ofList (m.capture 3))
      | none => .error (.invalidExpression expression) := by
  -- What the matcher notes is what `parse` takes apart, with the last capture first.
  have hnotes := notes_of_find? expression
  rw [seekName_eq] at hnotes
  unfold parse
  simp only
  generalize expression.toList.takeWhile (fun c => !isSymbolChar c) = front at *
  generalize expression.toList.dropWhile (fun c => !isSymbolChar c) = behind at *
  by_cases hempty : front = []
  · subst hempty
    have hnone := Option.map_eq_none_iff.mp hnotes
    rw [hnone]
    cases splitSymbol? behind <;> rfl
  · rw [List.isEmpty_eq_false_iff.mpr (middle_ne_nil hempty)]
    rw [List.isEmpty_eq_false_iff.mpr hempty, if_neg Bool.false_ne_true] at hnotes
    cases hsplit : splitSymbol? behind with
    | none =>
        rw [hsplit] at hnotes
        rw [Option.map_eq_none_iff.mp hnotes]
    | some split =>
        rw [hsplit] at hnotes
        obtain ⟨m, hm, hnoted⟩ := Option.map_eq_some_iff.mp hnotes
        rw [hm]
        simp only [← textOf_noted, hnoted]
        simp [textOf]

end PartSearch.SpecFilter
