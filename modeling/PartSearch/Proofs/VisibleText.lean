import PartSearch.Proofs.PatternReading

/-!
# What stays visible of a text

Texts are cut up and put together with white space in many ways. `visible` forgets the white space:
collapsing a text leaves its visible characters alone, and so does joining pieces with blanks. What
is left of a text once occurrences of a pattern are removed is therefore a subsequence of what was
visible before.
-/

namespace PartSearch.Text

/-- The characters of a text that are no white space. -/
def visible (cs : List Char) : List Char := cs.filter fun c => !isBlank c

@[simp]
theorem visible_nil : visible [] = [] := rfl

@[simp]
theorem visible_append (cs ds : List Char) : visible (cs ++ ds) = visible cs ++ visible ds :=
  List.filter_append cs ds

@[simp]
theorem visible_space : visible [' '] = [] := rfl

theorem visible_cons (c : Char) (cs : List Char) : visible (c :: cs) = visible [c] ++ visible cs :=
  visible_append [c] cs

theorem visible_sublist {cs ds : List Char} (h : cs.Sublist ds) :
    (visible cs).Sublist (visible ds) :=
  h.filter _

theorem visible_trim_ne_nil {cs : List Char} (h : trim cs ≠ []) : visible (trim cs) ≠ [] := by
  have hne : (trimStart cs).reverse.dropWhile isBlank ≠ [] :=
    fun hnil => h (by rw [trim, trimEndOf, hnil, List.reverse_nil])
  have hlast := List.head_dropWhile_not isBlank hne
  exact List.ne_nil_of_mem (List.mem_filter.mpr
    ⟨List.mem_reverse.mpr (List.head_mem hne), by rw [hlast]; rfl⟩)

/-! ### Collapsing -/

theorem splitAt_ne_nil (isCut : Char → Bool) (cs : List Char) : splitAt isCut cs ≠ [] := by
  cases cs with
  | nil => simp [splitAt]
  | cons c cs =>
      rw [splitAt]
      split
      · simp
      · split <;> simp

theorem flatten_splitAt (isCut : Char → Bool) (cs : List Char) :
    (splitAt isCut cs).flatten = cs.filter fun c => !isCut c := by
  induction cs with
  | nil => rfl
  | cons c cs ih =>
      rw [splitAt]
      by_cases hcut : isCut c = true
      · simp [hcut, ih]
      · rw [if_neg hcut]
        cases hpieces : splitAt isCut cs with
        | nil => exact absurd hpieces (splitAt_ne_nil isCut cs)
        | cons piece pieces =>
            rw [hpieces, List.flatten_cons] at ih
            simp [hcut, ← ih]

theorem flatten_words (cs : List Char) : (words cs).flatten = visible cs := by
  have hnonempty (pieces : List (List Char)) :
      (pieces.filter fun piece => !piece.isEmpty).flatten = pieces.flatten := by
    induction pieces with
    | nil => rfl
    | cons piece pieces ih => cases piece <;> simp [ih]
  rw [words, runsBetween, hnonempty, flatten_splitAt, visible]

theorem isEmpty_words {cs : List Char} (h : visible cs ≠ []) : (words cs).isEmpty = false := by
  rw [List.isEmpty_eq_false_iff]
  intro hnil
  have hflat := flatten_words cs
  rw [hnil] at hflat
  exact h hflat.symm

theorem visible_joinWith {separator : List Char} (h : visible separator = [])
    (pieces : List (List Char)) : visible (joinWith separator pieces) = visible pieces.flatten := by
  induction pieces with
  | nil => rfl
  | cons piece pieces ih =>
      cases pieces with
      | nil => simp [joinWith]
      | cons next rest =>
          have hjoin : joinWith separator (piece :: next :: rest) =
              piece ++ separator ++ joinWith separator (next :: rest) := rfl
          have hflatten : (piece :: next :: rest).flatten = piece ++ (next :: rest).flatten := rfl
          rw [hjoin, hflatten, visible_append, visible_append, visible_append, h, ih,
            List.append_nil]

theorem visible_collapse (cs : List Char) : visible (collapse cs) = visible cs := by
  rw [collapse, visible_joinWith visible_space, flatten_words, visible, visible, List.filter_filter]
  simp

/-! ### Removing what a pattern reads -/

theorem visible_remove {p : Pattern} {cs : List Char} {m : Found} (h : p.Finds cs m) :
    (visible m.remove).Sublist (visible cs) := by
  have hpieces : (m.before.reverse ++ m.after).Sublist cs := by
    rw [← h.whole]
    exact (List.sublist_append_left _ _).append_right _
  have hremove : visible m.remove = visible (m.before.reverse ++ m.after) := by
    rw [Found.remove, visible_collapse, visible_append, visible_cons, visible_space,
      List.nil_append, visible_append]
  rw [hremove]
  exact visible_sublist hpieces

theorem visible_replaceFrom (p : Pattern) {write : Found → List Char}
    (hwrite : ∀ m, visible (write m) = []) (before : List Char) (skip : Nat) (cs : List Char) :
    (visible (p.replaceFrom write before skip cs)).Sublist (visible (cs.drop skip)) := by
  induction cs generalizing before skip with
  | nil => simp [Pattern.replaceFrom]
  | cons c cs ih =>
      have hkeep : (visible (c :: p.replaceFrom write (c :: before) 0 cs)).Sublist
          (visible (c :: cs)) := by
        rw [visible_cons c cs, visible_cons c (p.replaceFrom write (c :: before) 0 cs)]
        exact (ih (c :: before) 0).append_left _
      cases skip with
      | succ skip => exact ih (c :: before) skip
      | zero =>
          rw [Pattern.replaceFrom, List.drop_zero]
          split
          · rename_i m hat
            by_cases hempty : m.text.isEmpty = true
            · rw [if_pos hempty]
              exact hkeep
            · rw [if_neg hempty, visible_append, hwrite, List.nil_append]
              refine (ih (c :: before) _).trans (visible_sublist ?_)
              exact (List.drop_sublist _ _).trans (List.sublist_cons_self c cs)
          · exact hkeep

theorem visible_removeWords (p : Pattern) (cs : List Char) :
    (visible (p.removeWords cs)).Sublist (visible cs) := by
  rw [Pattern.removeWords, visible_collapse]
  exact visible_replaceFrom p (fun _ => visible_space) [] 0 cs

end PartSearch.Text
