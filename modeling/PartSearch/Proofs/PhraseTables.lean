import PartSearch.Reading.Span

/-!
# Tables of phrases

Phrases of a table are tried from the longest to the shortest: `pairwise_longestFirst`. They are
ASCII texts, whose characters are their bytes: `toList_eq_asciiChars`.
-/

namespace PartSearch.Text

/-! ### ASCII texts by their bytes -/

def bytesOf (s : String) : List Nat := s.toByteArray.data.toList.map UInt8.toNat

/-- The bytes of a text, each taken for a character. Evaluation reads bytes off a literal faster
than characters. -/
def asciiChars (s : String) : List Char := (bytesOf s).map Char.ofNat

theorem bytesOf_eq (s : String) :
    bytesOf s = (s.toList.flatMap String.utf8EncodeChar).map UInt8.toNat := by
  rw [bytesOf, ← String.utf8Encode_toList, List.utf8Encode, List.data_toByteArray]

/-- A character beyond ASCII starts with a byte beyond ASCII. -/
theorem map_utf8EncodeChar {c : Char}
    (h : ∀ b ∈ (String.utf8EncodeChar c).map UInt8.toNat, b < 128) :
    (String.utf8EncodeChar c).map UInt8.toNat = [c.toNat] := by
  have hfirst {n : Nat} {rest : List UInt8}
      (h : ∀ b ∈ (UInt8.ofNat n :: rest).map UInt8.toNat, b < 128) : n % 256 < 128 := by
    have hhead := h _ List.mem_cons_self
    rwa [UInt8.toNat_ofNat'] at hhead
  have hcode : c.val.toNat = c.toNat := rfl
  unfold String.utf8EncodeChar at h ⊢
  simp only [hcode] at h ⊢
  by_cases hascii : c.toNat ≤ 127
  · rw [if_pos hascii, List.map_singleton, UInt8.toNat_ofNat', Nat.mod_eq_of_lt (by omega)]
  · exfalso
    rw [if_neg hascii] at h
    split at h
    · have hlow := hfirst h
      omega
    · split at h
      · have hlow := hfirst h
        omega
      · have hlow := hfirst h
        omega

theorem toList_eq_asciiChars {s : String} (h : ∀ b ∈ bytesOf s, b < 128) :
    s.toList = asciiChars s := by
  rw [asciiChars]
  rw [bytesOf_eq] at h ⊢
  generalize s.toList = cs at h ⊢
  induction cs with
  | nil => rfl
  | cons c cs ih =>
      rw [List.flatMap_cons, List.map_append, List.forall_mem_append] at h
      rw [List.flatMap_cons, List.map_append, List.map_append, ← ih h.2, map_utf8EncodeChar h.1,
        List.map_singleton, Char.ofNat_toNat, List.singleton_append]

/-! ### The order of phrases -/

/-- Of two phrases the longer one comes first, of equally long ones the first in the order of code
points. -/
def NoShorter (a b : String) : Prop := b.length < a.length ∨ a.length = b.length ∧ a ≤ b

instance (a b : String) : Decidable (NoShorter a b) := inferInstanceAs (Decidable (_ ∨ _))

theorem NoShorter.refl (a : String) : NoShorter a a := Or.inr ⟨rfl, String.le_refl a⟩

theorem NoShorter.trans {a b c : String} (hab : NoShorter a b) (hbc : NoShorter b c) :
    NoShorter a c := by
  rcases hab with hab | ⟨hab, horder⟩ <;> rcases hbc with hbc | ⟨hbc, horder'⟩
  · exact Or.inl (by omega)
  · exact Or.inl (by omega)
  · exact Or.inl (by omega)
  · exact Or.inr ⟨hab.trans hbc, String.le_trans horder horder'⟩

theorem noShorter_total (a b : String) : NoShorter a b ∨ NoShorter b a := by
  rcases Nat.lt_trichotomy a.length b.length with hlt | heq | hgt
  · exact Or.inr (Or.inl hlt)
  · exact (String.le_total a b).imp (fun h => Or.inr ⟨heq, h⟩) fun h => Or.inr ⟨heq.symm, h⟩
  · exact Or.inl (Or.inl hgt)

theorem pairwise_longestFirst {α : Type} (table : List (String × α)) :
    (longestFirst table).Pairwise fun a b => NoShorter a.1 b.1 := by
  have hle (a b : String × α) : (b.1.length < a.1.length ||
      (a.1.length = b.1.length && a.1 ≤ b.1)) = true ↔ NoShorter a.1 b.1 := by
    simp [NoShorter]
  have hsorted : (longestFirst table).Pairwise fun a b =>
      (b.1.length < a.1.length || (a.1.length = b.1.length && a.1 ≤ b.1)) = true := by
    apply List.pairwise_mergeSort
    · intro a b c hab hbc
      exact (hle a c).mpr (((hle a b).mp hab).trans ((hle b c).mp hbc))
    · intro a b
      rw [Bool.or_eq_true, hle, hle]
      exact noShorter_total a.1 b.1
  exact hsorted.imp fun h => (hle _ _).mp h

end PartSearch.Text
