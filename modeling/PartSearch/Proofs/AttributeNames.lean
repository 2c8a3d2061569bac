import PartSearch.Attribute.Name
import PartSearch.Proofs.BlobText
import PartSearch.Proofs.PhraseTables

/-!
# The attributes whose values can be read

The names of these attributes come from tables, so what patterns and blobs need of a name can be
checked once for all of them: `isNameText_of_format` and `not_interface_of_format`.
-/

namespace PartSearch.Attribute

open Attributes (IsNameText)

variable {name : String} {format : AttributeFormat}

instance (name : List Char) : Decidable (IsNameText name) :=
  decidable_of_iff
    (Json.IsPlain name ∧ Text.asciiLower name ≠ [',', ' '] ∧
      Text.asciiLower name ≠ [']', ',', ' ', '['])
    ⟨fun h => ⟨h.1, h.2.1, h.2.2⟩, fun h => ⟨h.plain, h.ne_comma, h.ne_bracket⟩⟩

/-- The aliases, the names that they stand for, and the names whose format is known. -/
def knownNames : List String :=
  aliases.flatMap (fun entry => entry.1 :: entry.2) ++ "Impedance @ Frequency" ::
    (AttributeFormat.intervals.map (·.1) ++ AttributeFormat.scalars.map (·.1))

theorem mem_of_lookup {α β : Type} [BEq α] [LawfulBEq α] {table : List (α × β)} {a : α} {b : β}
    (h : table.lookup a = some b) : (a, b) ∈ table := by
  obtain ⟨before, after, rfl, -⟩ := List.lookup_eq_some_iff.mp h
  exact List.mem_append_right before List.mem_cons_self

/-- A name stands for itself, or for what is listed with an alias that it is or that stands for
it. -/
theorem catalogNames_cases (name : String) :
    catalogNames name = [name] ∨
      ∃ entry ∈ aliases, name ∈ entry.1 :: entry.2 ∧ catalogNames name = entry.2 := by
  unfold catalogNames
  cases halias : aliases.lookup name with
  | some names => exact Or.inr ⟨(name, names), mem_of_lookup halias, List.mem_cons_self, rfl⟩
  | none =>
      by_cases hformat : (AttributeFormat.ofAttribute? name).isSome = true
      · exact Or.inl (if_pos hformat)
      · cases hentry : aliasOf? name with
        | some entry =>
            have hlists : name ∈ entry.2 := by simpa using List.find?_some hentry
            exact Or.inr ⟨entry, List.mem_of_find?_eq_some hentry, List.mem_cons_of_mem _ hlists,
              if_neg hformat⟩
        | none => exact Or.inl (if_neg hformat)

/-- Every name refers to some catalog name. -/
theorem catalogNames_ne_nil (name : String) : catalogNames name ≠ [] := by
  have htable : ∀ entry ∈ aliases, entry.2 ≠ [] := by decide
  rcases catalogNames_cases name with hself | ⟨entry, hentry, -, hnames⟩
  · rw [hself]
    exact List.cons_ne_nil _ _
  · rw [hnames]
    exact htable entry hentry

theorem mem_knownNames_of_alias {entry : String × List String} (hentry : entry ∈ aliases)
    (hname : name ∈ entry.1 :: entry.2) : name ∈ knownNames :=
  List.mem_append_left _ (List.mem_flatMap.mpr ⟨entry, hentry, hname⟩)

theorem mem_knownNames_of_ofAttribute (h : AttributeFormat.ofAttribute? name = some format) :
    name ∈ knownNames := by
  apply List.mem_append_right
  unfold AttributeFormat.ofAttribute? at h
  split at h
  · rename_i himpedance
    rw [himpedance]
    exact List.mem_cons_self
  apply List.mem_cons_of_mem
  split at h
  · rename_i interval hinterval
    exact List.mem_append_left _ (List.mem_map.mpr ⟨_, mem_of_lookup hinterval, rfl⟩)
  · obtain ⟨scalar, hscalar, -⟩ := Option.map_eq_some_iff.mp h
    exact List.mem_append_right _ (List.mem_map.mpr ⟨_, mem_of_lookup hscalar, rfl⟩)

/-- A name whose values can be read is known itself, and so is every name that it refers to. -/
theorem mem_knownNames_of_format (h : formatOf? (catalogNames name) = some format) :
    name ∈ knownNames ∧ ∀ n ∈ catalogNames name, n ∈ knownNames := by
  rcases catalogNames_cases name with hself | ⟨entry, hentry, hname, hnames⟩
  · rw [hself] at h ⊢
    obtain ⟨own, hown, hformat⟩ := List.exists_of_findSome?_eq_some h
    rw [List.mem_singleton.mp hown] at hformat
    have hknown := mem_knownNames_of_ofAttribute hformat
    exact ⟨hknown, List.forall_mem_singleton.mpr hknown⟩
  · rw [hnames]
    exact ⟨mem_knownNames_of_alias hentry hname,
      fun n hn => mem_knownNames_of_alias hentry (List.mem_cons_of_mem _ hn)⟩

/-- An ASCII text is compared by its bytes. -/
theorem sameText_of_ascii {s t : String} (h : ∀ b ∈ Text.bytesOf s, b < 128) :
    Text.sameText s t =
      decide (Text.asciiLower (Text.asciiChars s) = Text.asciiLower t.toList) := by
  rw [Text.sameText, Text.toList_eq_asciiChars h]

theorem knownNames_spec :
    ∀ n ∈ knownNames, IsNameText n.toList ∧ Text.sameText n "interface" = false := by
  have htable : ∀ n ∈ knownNames, (∀ b ∈ Text.bytesOf n, b < 128) ∧
      IsNameText (Text.asciiChars n) ∧
        Text.asciiLower (Text.asciiChars n) ≠ Text.asciiLower "interface".toList := by
    decide +kernel
  intro n hn
  obtain ⟨hascii, hname, hother⟩ := htable n hn
  rw [sameText_of_ascii hascii, Text.toList_eq_asciiChars hascii]
  exact ⟨hname, decide_eq_false hother⟩

theorem isNameText_of_format (h : formatOf? (catalogNames name) = some format) :
    ∀ n ∈ catalogNames name, IsNameText n.toList :=
  fun n hn => (knownNames_spec n ((mem_knownNames_of_format h).2 n hn)).1

theorem not_interface_of_format (h : formatOf? (catalogNames name) = some format) :
    Text.sameText name "interface" = false :=
  (knownNames_spec name (mem_knownNames_of_format h).1).2

/-! ### Attributes that are text -/

/-- Every alias stands for a name whose values can be read, so a name without such values stands
for itself. -/
theorem catalogNames_of_formatOf?_eq_none (h : formatOf? (catalogNames name) = none) :
    catalogNames name = [name] := by
  have htable : ∀ entry ∈ aliases, formatOf? entry.2 ≠ none := by decide +kernel
  rcases catalogNames_cases name with hself | ⟨entry, hentry, -, hnames⟩
  · exact hself
  · rw [hnames] at h
    exact absurd h (htable entry hentry)

/-- Neither a column nor a format serves "Interface", in any case. -/
theorem formatOf?_of_interface (h : Text.sameText name "interface" = true) :
    formatOf? (catalogNames name) = none := by
  cases hformat : formatOf? (catalogNames name) with
  | none => rfl
  | some format =>
      rw [not_interface_of_format hformat] at h
      exact absurd h Bool.false_ne_true

theorem column?_of_interface (h : Text.sameText name "interface" = true) : column? name = none := by
  have htable : ∀ entry ∈ columns, (∀ b ∈ Text.bytesOf entry.1, b < 128) ∧
      Text.asciiLower (Text.asciiChars entry.1) ≠ Text.asciiLower "interface".toList := by
    decide +kernel
  rw [column?, catalogNames_of_formatOf?_eq_none (formatOf?_of_interface h),
    List.findSome?_eq_none_iff]
  intro n hn
  obtain rfl : n = name := by simpa using hn
  cases hcolumn : columns.lookup n with
  | none => rfl
  | some column =>
      obtain ⟨hascii, hother⟩ := htable (n, column) (mem_of_lookup hcolumn)
      rw [sameText_of_ascii hascii] at h
      exact absurd (of_decide_eq_true h) hother

end PartSearch.Attribute
