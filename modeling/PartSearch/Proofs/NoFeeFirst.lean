import PartSearch.Proofs.ReplacementRanking

/-!
# Parts without an assembly fee come first

The points for the fee tier outweigh all others: stock, package, maker and price are worth between
-10 and 110 points together, whatever the prices are. In a report every basic or preferred part
therefore stands before every extended one, and extended parts only fill up the places that are left
when no other part is, `of_noFeeFirst`. Numbers are exact here; price points then lie between 0
and 10.
-/

namespace PartSearch

open Number (whole)

/-! ### Points -/

namespace Score

section

variable {ν : Type} [Number ν]

theorem ofPrice_le (price cheapest : Option ν) : ofPrice price cheapest ≤ 10 := by
  unfold ofPrice
  split
  · split
    · exact min_le_right _ _
    · decide
  · decide

theorem ofStock_bounds (stock : Nat) : -10 ≤ ofStock stock ∧ ofStock stock ≤ 70 := by
  unfold ofStock
  split_ifs <;> decide

theorem points_bounds {points : Int} (hpoints : 0 ≤ points) (given : Bool) :
    0 ≤ (if given then points else 0) ∧ (if given then points else 0) ≤ points := by
  split_ifs
  · exact ⟨hpoints, le_rfl⟩
  · exact ⟨le_rfl, hpoints⟩

theorem total_of (candidate original : Part ν) (cheapest : Option ν) :
    (of candidate original cheapest).total =
      (if candidate.tier.isNoFee then 1000 else 0) + ofStock candidate.stock +
        (if candidate.package == original.package then 20 else 0) +
        (if candidate.manufacturer == original.manufacturer then 10 else 0) +
        ofPrice candidate.price cheapest := rfl

end

theorem toInt_floor (x : Rat) : Number.toInt (Number.floor x) = x.floor := by
  change (x.floor : Rat).num.tdiv (x.floor : Rat).den = x.floor
  rw [Rat.num_intCast, Rat.den_intCast, Nat.cast_one, Int.tdiv_one]

/-- A quotient of positive prices has a floor of at least zero. -/
theorem ofPrice_nonneg (price cheapest : Option Rat) : 0 ≤ ofPrice price cheapest := by
  unfold ofPrice
  split
  · rename_i p c
    split
    · rename_i hpositive
      rw [Bool.and_eq_true, isPositive, isPositive, decide_eq_true_iff, decide_eq_true_iff]
        at hpositive
      have hzero : (whole 0 : Rat) = 0 := by decide +kernel
      have hten : (whole 10 : Rat) = 10 := by decide +kernel
      rw [hzero] at hpositive
      rw [toInt_floor, hten]
      have hquotient : 0 ≤ 10 * c / p :=
        div_nonneg (mul_nonneg (by norm_num) hpositive.2.le) hpositive.1.le
      exact le_min (Int.floor_nonneg.mpr hquotient) (by decide)
    · exact le_rfl
  · exact le_rfl

/-- No part with an assembly fee has as many points as one without. -/
theorem total_lt_total {a b : Part Rat} (original : Part Rat) (cheapest : Option Rat)
    (ha : a.tier.isNoFee = true) (hb : b.tier.isNoFee = false) :
    (of b original cheapest).total < (of a original cheapest).total := by
  have hpackage (part : Part Rat) :=
    points_bounds (by decide : (0 : Int) ≤ 20) (part.package == original.package)
  have hmaker (part : Part Rat) :=
    points_bounds (by decide : (0 : Int) ≤ 10) (part.manufacturer == original.manufacturer)
  have hlow : 990 ≤ (of a original cheapest).total := by
    rw [total_of, if_pos ha]
    linarith [(ofStock_bounds a.stock).1, (hpackage a).1, (hmaker a).1,
      ofPrice_nonneg a.price cheapest]
  have hhigh : (of b original cheapest).total ≤ 110 := by
    rw [total_of, hb, if_neg Bool.false_ne_true]
    linarith [(ofStock_bounds b.stock).2, (hpackage b).2, (hmaker b).2,
      ofPrice_le b.price cheapest]
  exact lt_of_le_of_lt hhigh (lt_of_lt_of_le (by decide) hlow)

end Score

/-! ### Ranking -/

theorem FeeTier.eq_extended_of_not_isNoFee {tier : FeeTier} (h : (!tier.isNoFee) = true) :
    tier = .extended := by
  cases tier with
  | basic => cases h
  | preferred => cases h
  | extended => rfl

namespace Replacement

theorem isNoFee_of_precedes {original a b : Part Rat} {lowest : Option Rat}
    (h : Precedes original lowest a b) (hb : b.tier.isNoFee = true) : a.tier.isNoFee = true := by
  by_contra ha
  have hlt := Score.total_lt_total original lowest hb (Bool.eq_false_iff.mpr ha)
  rcases h with h | ⟨h, -⟩
  · exact lt_asymm h hlt
  · exact absurd h.symm hlt.ne'

/-- Where everything behind an item without a property lacks it too, the items with it come
first. -/
theorem filter_append_filter_not {α : Type} {p : α → Bool} {items : List α}
    (h : items.Pairwise fun a b => p b = true → p a = true) :
    items.filter p ++ items.filter (fun a => !p a) = items := by
  induction items with
  | nil => rfl
  | cons a items ih =>
      obtain ⟨ha, hitems⟩ := List.pairwise_cons.mp h
      by_cases hp : p a = true
      · rw [List.filter_cons_of_pos hp, List.filter_cons_of_neg (by simp [hp]), List.cons_append,
          ih hitems]
      · have hbehind : ∀ b ∈ items, ¬ p b = true := fun b hb hpb => hp (ha b hb hpb)
        have hnone : (a :: items).filter p = [] := by
          rw [List.filter_cons_of_neg hp, List.filter_eq_nil_iff]
          exact hbehind
        rw [hnone, List.nil_append, List.filter_eq_self]
        intro b hb
        rcases List.mem_cons.mp hb with rfl | hb
        · simpa using hp
        · simpa using hbehind b hb

end Replacement

/-- Replacements chosen out of `parts`, `count` of them at most: those without an assembly fee stand
in front, and the others only take places that are left when all of these are there. -/
structure NoFeeFirst (parts : List (Part Rat)) (count : Nat)
    (replacements free others : List (Replacement Rat)) : Prop where
  split : replacements = free ++ others
  isNoFee : ∀ r ∈ free, r.isNoFee = true
  extended : ∀ r ∈ others, r.part.tier = .extended
  length : free.length = min count (parts.countP fun part => part.tier.isNoFee)
  omitted : ∀ part ∈ parts, part.tier.isNoFee = true →
    part ∉ replacements.map (fun r => r.part) → others = []
  points : ∀ r ∈ replacements, 0 ≤ r.score.price ∧ r.score.price ≤ 10

namespace ReplacementReport

open Replacement (survivors scored)

variable (book : RuleBook) (options : ReplacementOptions Rat) (original : Part Rat)

/-- Whatever stock, prices, packages and makers are, a report prefers parts without an assembly
fee. -/
theorem of_noFeeFirst {pool : List (Part Rat)} (hids : (pool.map Part.id).Nodup) :
    ∃ free others,
      NoFeeFirst (survivors options (book.ruleFor? original) original pool) options.count
        (of book options original pool).replacements free others := by
  have hreplacements := replacements_of book options original pool
  have hsurvivors :=
    Replacement.nodup_survivors options (book.ruleFor? original) original hids
  generalize survivors options (book.ruleFor? original) original pool = parts
    at hreplacements hsurvivors
  obtain ⟨best, hperm, hordered, hranking⟩ := Replacement.exists_ranking options
    (book.ruleFor? original) original (Score.cheapest? parts) hsurvivors
  rw [Replacement.bestOf_eq, Replacement.map_fst_withVerdicts, hranking, ← List.map_take]
    at hreplacements
  have hsplit := Replacement.filter_append_filter_not
    (p := fun part : Part Rat => part.tier.isNoFee)
    (hordered.imp fun h hb => Replacement.isNoFee_of_precedes h hb)
  generalize hfree : best.filter (fun part => part.tier.isNoFee) = free at hsplit
  generalize hothers : best.filter (fun part => !part.tier.isNoFee) = others at hsplit
  have hlength : free.length = parts.countP fun part => part.tier.isNoFee := by
    rw [← hfree, ← List.countP_eq_length_filter]
    exact hperm.countP_eq _
  rw [← hsplit, List.take_append, List.map_append] at hreplacements
  refine ⟨_, _, hreplacements, ?_, ?_, ?_, ?_, ?_⟩
  · intro r hr
    obtain ⟨part, hpart, rfl⟩ := List.mem_map.mp hr
    have hmem := List.mem_of_mem_take hpart
    rw [← hfree] at hmem
    exact (List.mem_filter.mp hmem).2
  · intro r hr
    obtain ⟨part, hpart, rfl⟩ := List.mem_map.mp hr
    have hmem := List.mem_of_mem_take hpart
    rw [← hothers] at hmem
    exact FeeTier.eq_extended_of_not_isNoFee (List.mem_filter.mp hmem).2
  · rw [List.length_map, List.length_take, hlength]
  · intro part hpart hnoFee homitted
    have hmem : part ∈ free := by
      rw [← hfree]
      exact List.mem_filter.mpr ⟨hperm.mem_iff.mpr hpart, hnoFee⟩
    have hfull : options.count < free.length := by
      by_contra hle
      refine homitted ?_
      rw [hreplacements, List.take_of_length_le (Nat.le_of_not_lt hle), ← List.map_append,
        List.map_map]
      exact List.mem_map.mpr ⟨part, List.mem_append_left _ hmem, rfl⟩
    rw [Nat.sub_eq_zero_of_le hfull.le, List.take_zero, List.map_nil]
  · intro r hr
    rw [hreplacements, ← List.map_append] at hr
    obtain ⟨part, -, rfl⟩ := List.mem_map.mp hr
    exact ⟨Score.ofPrice_nonneg _ _, Score.ofPrice_le _ _⟩

/-- A cheap extended part in good supply, and a basic one that is almost gone and has no price. -/
def stockedAndScarce : List (Part Rat) :=
  [{ chipResistor "R2" "10kΩ" 50000 1 with tier := .extended },
    { chipResistor "R3" "10kΩ" 3 0 with price := none }]

theorem of_noFeeFirst_stockedAndScarce :
    (of resistorRules bestOnly tenKilohm stockedAndScarce).replacements.map (fun r => r.part.id) =
        ["R3"] ∧
      ∃ free others,
        NoFeeFirst (survivors bestOnly (resistorRules.ruleFor? tenKilohm) tenKilohm
          stockedAndScarce) bestOnly.count
          (of resistorRules bestOnly tenKilohm stockedAndScarce).replacements free others :=
  ⟨by decide +kernel, of_noFeeFirst resistorRules bestOnly tenKilohm (by decide)⟩

end ReplacementReport

end PartSearch
