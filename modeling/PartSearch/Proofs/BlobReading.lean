import Mathlib.Data.List.Forall2
import Mathlib.Tactic.IntervalCases
import Mathlib.Tactic.SplitIfs
import PartSearch.Proofs.BlobText
import PartSearch.Store.Memory

/-!
# Reading a blob back

Writing a blob loses nothing: whatever characters the names and values of the attributes have,
reading gives the same attributes in the same order, `decode?_render`. A string is read back one
character at a time, because each character is written plainly or as one escape; a list is read back
one item at a time, because no item starts like a space or like the closing bracket.
-/

namespace PartSearch.Json

/-! ### Strings -/

theorem hexUnit?_padZeros {n : Nat} (hn : n < 32) :
    ∃ a b c d, padZeros 4 (Nat.toDigits 16 n) = [a, b, c, d] ∧ hexUnit? a b c d = some n := by
  interval_cases n <;> exact ⟨_, _, _, _, rfl, rfl⟩

theorem ofUnit_toNat {c : Char} (hcontrol : c.toNat < 32) : Piece.ofUnit c.toNat = .char c := by
  have hhalf : (decide (0xD800 ≤ c.toNat) && decide (c.toNat ≤ 0xDFFF)) = false := by
    rw [Bool.and_eq_false_imp, decide_eq_true_eq]
    intro hlow
    omega
  rw [Piece.ofUnit, hhalf, if_neg Bool.false_ne_true, Char.ofNat_toNat]

/-- A character stands for itself in a written string, or it is written as one escape. -/
theorem escapeChar_eq (c : Char) :
    (escapeChar c = [c] ∧ c ≠ '"' ∧ c ≠ '\\' ∧ ¬ c.toNat < 32) ∨
      ∃ body, escapeChar c = '\\' :: body ∧
        ∀ rest, escaped? (body ++ rest) = some (.char c, rest) := by
  have hnamed {letter : Char} (hletter : letter ≠ 'u')
      (hread : namedEscape? letter = some c) :
      ∀ rest, escaped? ([letter] ++ rest) = some (.char c, rest) := by
    intro rest
    rw [List.singleton_append, escaped?, hread]
    · rfl
    · exact fun _ _ _ _ _ hu _ => hletter hu
  unfold escapeChar
  split_ifs with hquote hslash hbackspace htab hline hpage hreturn hcontrol
  · exact Or.inr ⟨_, rfl, hnamed (by decide) (by rw [hquote]; rfl)⟩
  · exact Or.inr ⟨_, rfl, hnamed (by decide) (by rw [hslash]; rfl)⟩
  · exact Or.inr ⟨_, rfl, hnamed (by decide) (by rw [hbackspace]; rfl)⟩
  · exact Or.inr ⟨_, rfl, hnamed (by decide) (by rw [htab]; rfl)⟩
  · exact Or.inr ⟨_, rfl, hnamed (by decide) (by rw [hline]; rfl)⟩
  · exact Or.inr ⟨_, rfl, hnamed (by decide) (by rw [hpage]; rfl)⟩
  · exact Or.inr ⟨_, rfl, hnamed (by decide) (by rw [hreturn]; rfl)⟩
  · obtain ⟨x, y, z, w, hdigits, hunit⟩ := hexUnit?_padZeros hcontrol
    refine Or.inr ⟨_, rfl, fun rest => ?_⟩
    rw [hdigits]
    change (hexUnit? x y z w).map (fun unit => (Piece.ofUnit unit, rest)) = _
    rw [hunit, Option.map_some, ofUnit_toNat hcontrol]
  · exact Or.inl ⟨rfl, hquote, hslash, hcontrol⟩

theorem length_le_length_escapeText (cs : List Char) : cs.length ≤ (escapeText cs).length := by
  induction cs with
  | nil => exact Nat.le_refl 0
  | cons c cs ih =>
      have hone : 1 ≤ (escapeChar c).length := by
        rcases escapeChar_eq c with ⟨hplain, -⟩ | ⟨body, hescape, -⟩
        · rw [hplain, List.length_singleton]
        · rw [hescape, List.length_cons]
          exact Nat.le_add_left 1 _
      rw [escapeText_cons, List.length_append, List.length_cons]
      omega

/-- The pieces of a written string are the characters of the text. -/
theorem unquoteUpTo?_escapeText (cs rest : List Char) {limit : Nat} (hlimit : cs.length < limit) :
    unquoteUpTo? limit (escapeText cs ++ '"' :: rest) = some (cs.map .char, rest) := by
  induction cs generalizing limit with
  | nil =>
      obtain ⟨limit, rfl⟩ := Nat.exists_eq_succ_of_ne_zero (Nat.ne_zero_of_lt hlimit)
      rfl
  | cons c cs ih =>
      obtain ⟨limit, rfl⟩ := Nat.exists_eq_succ_of_ne_zero (Nat.ne_zero_of_lt hlimit)
      have hrest := ih (Nat.lt_of_succ_lt_succ hlimit)
      rw [escapeText_cons, List.append_assoc]
      rcases escapeChar_eq c with ⟨hplain, hquote, hslash, hcontrol⟩ | ⟨body, hescape, hread⟩
      · rw [hplain, List.singleton_append, unquoteUpTo?, quoteMark, if_neg hquote, if_neg hslash,
          if_neg hcontrol, hrest]
        rfl
      · rw [hescape, List.cons_append, unquoteUpTo?, if_neg (by decide), if_pos rfl, hread]
        change (unquoteUpTo? limit (escapeText cs ++ '"' :: rest)).map _ = _
        rw [hrest]
        rfl

theorem joined?_map_char (cs : List Char) : Piece.joined? (cs.map .char) = some cs := by
  induction cs with
  | nil => rfl
  | cons c cs ih => rw [List.map_cons, Piece.joined?, ih, Option.map_some]

theorem unquote?_escapeText (text : String) (rest : List Char) :
    unquote? (escapeText text.toList ++ '"' :: rest) = some (some text, rest) := by
  have hlimit : text.toList.length < (escapeText text.toList ++ '"' :: rest).length + 1 := by
    have hlength := length_le_length_escapeText text.toList
    rw [List.length_append]
    omega
  rw [unquote?, unquoteUpTo?_escapeText _ _ hlimit, Option.map_some]
  dsimp only
  rw [joined?_map_char, Option.map_some, String.ofList_toList]

/-! ### Lists -/

/-- Whatever follows the text, the reader takes the text for this value and stops behind it. -/
structure Spells {α : Type} (item : List Char → Option (α × List Char)) (text : List Char)
    (x : α) : Prop where
  starts : ∃ c cs, text = c :: cs ∧ isSpace c = false ∧ c ≠ ']'
  reads : ∀ rest, item (text ++ rest) = some (x, rest)

section Items

variable {α : Type} {item : List Char → Option (α × List Char)}

theorem skipSpaces_cons {c : Char} (hc : isSpace c = false) (cs : List Char) :
    skipSpaces (c :: cs) = c :: cs :=
  List.dropWhile_cons_of_neg (by rw [hc]; exact Bool.false_ne_true)

theorem Spells.skipSpaces_append {text : List Char} {x : α} (h : Spells item text x)
    (rest : List Char) : skipSpaces (text ++ rest) = text ++ rest := by
  obtain ⟨c, cs, rfl, hspace, -⟩ := h.starts
  exact skipSpaces_cons hspace (cs ++ rest)

theorem joinWith_cons_cons (separator text next : List Char) (texts : List (List Char)) :
    Text.joinWith separator (text :: next :: texts) =
      text ++ separator ++ Text.joinWith separator (next :: texts) := rfl

/-- Items with `", "` between them are read one after the other. -/
theorem itemsUpTo?_joinWith {text : List Char} {texts : List (List Char)} {x : α} {xs : List α}
    (h : List.Forall₂ (Spells item) (text :: texts) (x :: xs)) (rest : List Char) {limit : Nat}
    (hlimit : texts.length < limit) :
    itemsUpTo? item ']' limit (Text.joinWith [',', ' '] (text :: texts) ++ ']' :: rest) =
      some (x :: xs, rest) := by
  induction texts generalizing text x xs limit with
  | nil =>
      obtain ⟨limit, rfl⟩ := Nat.exists_eq_succ_of_ne_zero (Nat.ne_zero_of_lt hlimit)
      obtain ⟨htext, hnil⟩ := List.forall₂_cons.mp h
      obtain rfl := List.forall₂_nil_left_iff.mp hnil
      rw [Text.joinWith, itemsUpTo?, htext.skipSpaces_append, htext.reads]
      rfl
  | cons next texts ih =>
      obtain ⟨limit, rfl⟩ := Nat.exists_eq_succ_of_ne_zero (Nat.ne_zero_of_lt hlimit)
      obtain ⟨htext, hmore⟩ := List.forall₂_cons.mp h
      obtain ⟨y, ys, hnext, -, rfl⟩ := List.forall₂_cons_left_iff.mp hmore
      have hlater := ih hmore (Nat.lt_of_succ_lt_succ hlimit)
      have hspace (cs : List Char) : skipSpaces (',' :: cs) = ',' :: cs := skipSpaces_cons rfl cs
      have hskip : itemsUpTo? item ']' limit
          (' ' :: (Text.joinWith [',', ' '] (next :: texts) ++ ']' :: rest)) =
            itemsUpTo? item ']' limit (Text.joinWith [',', ' '] (next :: texts) ++ ']' :: rest) := by
        cases limit with
        | zero => rfl
        | succ limit => rfl
      rw [joinWith_cons_cons, List.append_assoc, List.append_assoc, itemsUpTo?,
        htext.skipSpaces_append, htext.reads]
      simp only [List.cons_append, List.nil_append, hspace]
      rw [if_neg (by decide), if_pos trivial, hskip, hlater]
      rfl

theorem length_le_length_joinWith (text : List Char) (texts : List (List Char)) :
    texts.length ≤ (Text.joinWith [',', ' '] (text :: texts)).length := by
  induction texts generalizing text with
  | nil => exact Nat.zero_le _
  | cons next texts ih =>
      have hnext := ih next
      rw [joinWith_cons_cons, List.length_append, List.length_append, List.length_cons]
      change texts.length + 1 ≤ text.length + 2 + _
      omega

theorem items?_joinWith {texts : List (List Char)} {xs : List α}
    (h : List.Forall₂ (Spells item) texts xs) (rest : List Char) :
    items? item ']' (Text.joinWith [',', ' '] texts ++ ']' :: rest) = some (xs, rest) := by
  cases h with
  | nil => rfl
  | @cons text x texts xs htext hmore =>
      have hlimit :
          texts.length < (Text.joinWith [',', ' '] (text :: texts) ++ ']' :: rest).length := by
        have hlength := length_le_length_joinWith text texts
        rw [List.length_append, List.length_cons]
        omega
      have hread := itemsUpTo?_joinWith (List.Forall₂.cons htext hmore) rest hlimit
      obtain ⟨c, cs, hstart, hspace, hclose⟩ := htext.starts
      obtain ⟨more, hmore⟩ : ∃ more, Text.joinWith [',', ' '] (text :: texts) = text ++ more := by
        cases texts with
        | nil => exact ⟨[], (List.append_nil text).symm⟩
        | cons next texts => exact ⟨_, List.append_assoc _ _ _⟩
      rw [hmore, hstart, List.cons_append, List.cons_append] at hread ⊢
      rw [items?, skipSpaces_cons hspace]
      dsimp only
      rw [if_neg hclose, hread]

end Items

theorem spells_quote (depth : Nat) (text : String) :
    Spells (value? depth) (quote text.toList) (str text) where
  starts := ⟨'"', _, rfl, rfl, by decide⟩
  reads rest := by
    rw [quote_eq, List.cons_append, List.cons_append, List.append_assoc, List.singleton_append]
    cases depth <;> rw [value?, if_pos (show '"' = quoteMark from rfl), unquote?_escapeText] <;> rfl

theorem spells_list {depth : Nat} {texts : List (List Char)} {xs : List Json}
    (h : List.Forall₂ (Spells (value? depth)) texts xs) :
    Spells (value? (depth + 1)) ('[' :: Text.joinWith [',', ' '] texts ++ [']']) (arr xs) where
  starts := ⟨'[', _, rfl, rfl, by decide⟩
  reads rest := by
    rw [List.cons_append, List.cons_append, List.append_assoc, List.singleton_append, value?,
      if_neg (by decide), if_pos rfl, items?_joinWith h]
    rfl

end PartSearch.Json

namespace PartSearch.Attributes

open Json

theorem spells_renderPair (depth : Nat) (pair : String × String) :
    Spells (Json.value? (depth + 1)) (renderPair pair) (Json.strings [pair.1, pair.2]) := by
  have hstrings : List.Forall₂ (Spells (Json.value? depth))
      [quote pair.1.toList, quote pair.2.toList] [.str pair.1, .str pair.2] :=
    .cons (spells_quote depth pair.1) (.cons (spells_quote depth pair.2) .nil)
  have hwritten : renderPair pair = '[' :: Text.joinWith [',', ' ']
      [quote pair.1.toList, quote pair.2.toList] ++ [']'] := by
    simp [renderPair, Text.joinWith]
  rw [hwritten]
  exact spells_list hstrings

theorem spells_renderChars (depth : Nat) (pairs : Attributes) :
    Spells (Json.value? (depth + 2)) (renderChars pairs)
      (.arr (pairs.map fun pair => Json.strings [pair.1, pair.2])) := by
  apply spells_list
  rw [List.forall₂_map_left_iff, List.forall₂_map_right_iff, List.forall₂_same]
  exact fun pair _ => spells_renderPair depth pair

theorem read?_render (pairs : Attributes) :
    Json.read? pairs.render =
      some (.arr (pairs.map fun pair => Json.strings [pair.1, pair.2])) := by
  obtain ⟨depth, hdepth⟩ : ∃ depth, (renderChars pairs).length = depth + 2 :=
    ⟨_, by rw [renderChars, List.cons_append, List.length_cons, List.length_append]; rfl⟩
  have hread := (spells_renderChars depth pairs).reads []
  have hskip := (spells_renderChars depth pairs).skipSpaces_append []
  rw [List.append_nil] at hread hskip
  rw [Json.read?, render, String.toList_ofList, hdepth, hskip, hread]
  rfl

theorem mapM_pairOfJson? (pairs : Attributes) :
    (pairs.map fun pair => Json.strings [pair.1, pair.2]).mapM pairOfJson? = some pairs := by
  induction pairs with
  | nil => rfl
  | cons pair pairs ih =>
      rw [List.map_cons, List.mapM_cons, ih]
      rfl

/-- Reading a written blob gives the attributes that were written. -/
theorem decode?_render (pairs : Attributes) : decode? pairs.render = some pairs := by
  have hblank : isBlankText pairs.render = false := by
    rw [isBlankText, render, String.toList_ofList, renderChars]
    rfl
  rw [decode?, hblank, if_neg Bool.false_ne_true, read?_render]
  exact mapM_pairOfJson? pairs

/-- The attributes of a row are the ones that its blob was written from, and the store keeps such a
blob as it is. -/
theorem row_reads_back {ν : Type} [Number ν] (t : Taxonomy) (row : Row ν) (pairs : Attributes) :
    decode? pairs.render = some pairs ∧
      (Part.ofRow t { row with attributes := pairs.render }).attributes = pairs ∧
      (IndexedRow.ofRow { row with attributes := pairs.render }).blob = pairs.render := by
  have hdecode := decode?_render pairs
  refine ⟨hdecode, ?_, ?_⟩
  · change (decode? pairs.render).getD [] = pairs
    rw [hdecode, Option.getD_some]
  · change ((decode? pairs.render).map render).getD pairs.render = pairs.render
    rw [hdecode, Option.map_some, Option.getD_some]

end PartSearch.Attributes
