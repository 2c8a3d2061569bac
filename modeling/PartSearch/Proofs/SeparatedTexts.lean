import PartSearch.Proofs.PatternChoice
import PartSearch.Quantity.Scalar

/-!
# Texts with a separator in them

A pattern that reads nothing of a separator finds its occurrences on one side of it or on the other,
and there it finds what it would find in that part alone: `find?_separated`. So the number read from
a text in two parts is the number of one part, of the one where the unit tried first occurs:
`readFirst?_separated`.
-/

namespace PartSearch

namespace Text

/-! ### A part of a text within the text -/

section Within

variable (x y : List Char)

/-- A capture in a text that goes on with `y`. -/
def Capture.within (c : Capture) : Capture := ⟨c.number, c.opened ++ y, c.closed ++ y⟩

/-- A place in a text between `y` and the text whose characters, nearest first, are `x`. -/
def Place.within (p : Place) : Place :=
  ⟨p.before ++ x, p.after ++ y, p.captures.map (Capture.within y)⟩

def Found.within (m : Found) : Found :=
  ⟨m.before ++ x, m.text, m.after ++ y, m.captures.map (Capture.within y)⟩

theorem take_length_sub_append (after rest : List Char) :
    (after ++ y).take ((after ++ y).length - (rest ++ y).length) =
      after.take (after.length - rest.length) := by
  rw [List.length_append, List.length_append, Nat.add_sub_add_right,
    List.take_append_of_le_length (Nat.sub_le _ _)]

theorem Capture.text_within (c : Capture) : (c.within y).text = c.text :=
  take_length_sub_append y c.opened c.closed

theorem Found.capture_within (m : Found) (number : Nat) :
    (m.within x y).capture number = m.capture number := by
  have hnumber : (fun c : Capture => c.number == number) ∘ Capture.within y =
      fun c => c.number == number := rfl
  have htext : Capture.text ∘ Capture.within y = Capture.text := funext (Capture.text_within y)
  rw [Found.capture, Found.capture?, Found.within, List.find?_map, hnumber, Option.map_map, htext]
  rfl

end Within

namespace Pattern

/-- A pattern that reads the separator nowhere and does not look around it. -/
def avoids (sep : Char) : Pattern → Bool
  | nothing => true
  | one cls => !cls sep
  | seq p q | either p q => p.avoids sep && q.avoids sep
  | many (one cls) => !cls sep
  | capture _ p => p.avoids sep
  | _ => false

section Avoids

variable {sep : Char} {p : Pattern} {x y : List Char}

theorem ends_one_within {cls : Char → Bool} (hsep : cls sep = false) (hy : ∀ c ∈ y.head?, c = sep)
    (a : Place) : (one cls).ends (a.within x y) = ((one cls).ends a).map (Place.within x y) := by
  obtain ⟨before, after, captures⟩ := a
  cases after with
  | nil =>
      cases y with
      | nil => rfl
      | cons c y =>
          obtain rfl := hy c rfl
          simp [ends, Place.within, hsep]
  | cons c after => by_cases hc : cls c = true <;> simp [ends, Place.within, hc]

theorem repeatInto_of_stuck {step : Place → List Place} {a : Place} (h : step a = [])
    (limit : Nat) : repeatInto step limit a [] = [a] := by
  cases limit with
  | zero => rfl
  | succ limit => rw [repeatInto_succ, h, List.flatMap_nil, List.nil_append]

/-- A run of characters stops at the separator, whatever number of repetitions is allowed. -/
theorem repeatInto_one_within {cls : Char → Bool} (hsep : cls sep = false)
    (hy : ∀ c ∈ y.head?, c = sep) (a : Place) {limit limit' : Nat} (h : a.after.length ≤ limit)
    (h' : a.after.length ≤ limit') :
    repeatInto (one cls).ends limit' (a.within x y) [] =
      (repeatInto (one cls).ends limit a []).map (Place.within x y) := by
  obtain ⟨before, after, captures⟩ := a
  induction after generalizing before limit limit' with
  | nil =>
      have hstuck : (one cls).ends ⟨before, [], captures⟩ = [] := rfl
      have hwithin := @ends_one_within sep x y cls hsep hy ⟨before, [], captures⟩
      rw [hstuck, List.map_nil] at hwithin
      rw [repeatInto_of_stuck hwithin, repeatInto_of_stuck hstuck, List.map_singleton]
  | cons c after ih =>
      obtain ⟨limit, rfl⟩ := Nat.exists_eq_add_one_of_ne_zero (Nat.ne_zero_of_lt h)
      obtain ⟨limit', rfl⟩ := Nat.exists_eq_add_one_of_ne_zero (Nat.ne_zero_of_lt h')
      rw [repeatInto_succ, repeatInto_succ, ends_one_within hsep hy, List.flatMap_map,
        List.map_append, List.map_flatMap, List.map_singleton]
      congr 1
      by_cases hc : cls c = true
      · have hstep : (one cls).ends ⟨before, c :: after, captures⟩ =
            [⟨c :: before, after, captures⟩] := by simp [ends, hc]
        rw [hstep, List.flatMap_singleton, List.flatMap_singleton]
        exact ih _ (Nat.le_of_succ_le_succ h) (Nat.le_of_succ_le_succ h')
      · have hstuck : (one cls).ends ⟨before, c :: after, captures⟩ = [] := by simp [ends, hc]
        rw [hstuck, List.flatMap_nil, List.flatMap_nil]

theorem ends_within (h : p.avoids sep = true) (hy : ∀ c ∈ y.head?, c = sep) (a : Place) :
    p.ends (a.within x y) = (p.ends a).map (Place.within x y) := by
  induction p generalizing a with
  | nothing => rfl
  | one cls => exact ends_one_within (by simpa [avoids] using h) hy a
  | seq p q ihp ihq =>
      obtain ⟨hp, hq⟩ := Bool.and_eq_true_iff.mp h
      rw [ends, ends, ihp hp, List.flatMap_map, List.map_flatMap]
      exact congrArg (List.flatMap · _) (funext fun b => ihq hq b)
  | either p q ihp ihq =>
      obtain ⟨hp, hq⟩ := Bool.and_eq_true_iff.mp h
      rw [ends, ends, ihp hp, ihq hq, List.map_append]
  | many p =>
      cases p with
      | one cls =>
          exact repeatInto_one_within (by simpa [avoids] using h) hy a (Nat.le_refl _)
            (by simp [Place.within])
      | _ => cases h
  | capture number p ih =>
      rw [ends, ends, ih h, List.map_map, List.map_map]
      rfl
  | edge | start | finish => cases h

theorem at?_within (h : p.avoids sep = true) (hy : ∀ c ∈ y.head?, c = sep)
    (before after : List Char) :
    p.at? (before ++ x) (after ++ y) = (p.at? before after).map (Found.within x y) := by
  have hends := @ends_within sep p x y h hy ⟨before, after, []⟩
  change ((p.ends (Place.within x y ⟨before, after, []⟩)).head?.map _) = _
  rw [hends, List.head?_map, Option.map_map, at?, Option.map_map]
  refine congrArg (Option.map · _) (funext fun a => ?_)
  simp only [Function.comp_apply, Found.within, Place.within, take_length_sub_append]

theorem findFrom?_behind (h : p.avoids sep = true) (before cs : List Char) :
    p.findFrom? (before ++ x) cs = (p.findFrom? before cs).map (Found.within x []) := by
  have hat (before after : List Char) :
      p.at? (before ++ x) after = (p.at? before after).map (Found.within x []) := by
    have hwithin := @at?_within sep p x [] h (by simp) before after
    rwa [List.append_nil] at hwithin
  induction cs generalizing before with
  | nil => exact hat before []
  | cons c cs ih =>
      rw [findFrom?, findFrom?, hat, ← List.cons_append, ih]
      cases p.at? before (c :: cs) <;> rfl

theorem findFrom?_separated (h : p.avoids sep = true) (before front back : List Char) :
    p.findFrom? before (front ++ sep :: back) =
      ((p.findFrom? before front).map (Found.within [] (sep :: back))).or
        (p.findFrom? (sep :: (front.reverse ++ before)) back) := by
  have hat (before after : List Char) : p.at? before (after ++ sep :: back) =
      (p.at? before after).map (Found.within [] (sep :: back)) := by
    have hwithin := @at?_within sep p [] (sep :: back) h (by simp) before after
    rwa [List.append_nil] at hwithin
  induction front generalizing before with
  | nil =>
      have hfront := hat before []
      rw [List.nil_append] at hfront ⊢
      rw [findFrom?, findFrom?, hfront]
      cases p.at? before [] <;> rfl
  | cons c front ih =>
      rw [List.cons_append, findFrom?, ← List.cons_append, hat, findFrom?, ih]
      cases p.at? before (c :: front) <;> simp

/-- In a text with a separator a pattern finds what it finds in the front part, and otherwise what
it finds in the back part. -/
theorem find?_separated (h : p.avoids sep = true) (front back : List Char) :
    p.find? (front ++ sep :: back) =
      ((p.find? front).map (Found.within [] (sep :: back))).or
        ((p.find? back).map (Found.within (sep :: front.reverse) [])) := by
  have hback := @findFrom?_behind sep p (sep :: front.reverse) h [] back
  rw [List.nil_append] at hback
  rw [find?, findFrom?_separated h, List.append_nil, hback]
  rfl

end Avoids

end Pattern

end Text

namespace ScalarFormat

open Text (Pattern)

section Separated

variable {ν : Type} {sep : Char} {units : List (Pattern × (ν → ν))}

/-- The position of the first unit that occurs in a text, which is the one that decides. -/
def deciding (units : List (Pattern × (ν → ν))) (cs : List Char) : Nat :=
  units.findIdx fun unit => unit.1.occurs cs

theorem deciding_cons (unit : Pattern × (ν → ν)) (cs : List Char) :
    deciding (unit :: units) cs = if unit.1.occurs cs then 0 else deciding units cs + 1 := by
  rw [deciding, List.findIdx_cons]
  cases unit.1.occurs cs <;> rfl

variable [Number ν]

/-- A text in two parts is read as its front part, unless a unit of the back part is tried before
any of the front part. -/
theorem readFirst?_separated (h : ∀ unit ∈ units, unit.1.avoids sep = true)
    (front back : List Char) : readFirst? units (front ++ sep :: back) =
      if deciding units front ≤ deciding units back then readFirst? units front
        else readFirst? units back := by
  induction units with
  | nil => rfl
  | cons unit units ih =>
      obtain ⟨p, scale⟩ := unit
      obtain ⟨hp, hunits⟩ := List.forall_mem_cons.mp h
      have hfind := Pattern.find?_separated hp front back
      cases hfront : p.find? front with
      | some m =>
          rw [hfront, Option.map_some, Option.some_or] at hfind
          simp [readFirst?, deciding_cons, Pattern.occurs, hfind, hfront, Text.Found.capture_within]
      | none =>
          rw [hfront, Option.map_none, Option.none_or] at hfind
          cases hback : p.find? back with
          | some m =>
              rw [hback, Option.map_some] at hfind
              simp [readFirst?, deciding_cons, Pattern.occurs, hfind, hfront, hback,
                Text.Found.capture_within]
          | none =>
              rw [hback, Option.map_none] at hfind
              simp [readFirst?, deciding_cons, Pattern.occurs, hfind, hfront, hback, ih hunits]

end Separated

end ScalarFormat

end PartSearch
