import Mathlib.Data.List.Infix
import Mathlib.Data.List.Nodup
import PartSearch.Catalog.Taxonomy

/-!
# What a name is resolved to

A name is tried in three ways, each only if the ones before it lead nowhere: as a word for a kind of
part, as the name of a subcategory, and as a part of such a name. `Taxonomy.Resolution` states that
order as rules for the answer, without a search: which entry counts if several have one name, which
name is the shortest, and what is suggested if nothing is found. In a catalog whose ids are
different the answer is the one and only that the rules allow, `resolveSubcategory_eq_iff`.
-/

namespace PartSearch

theorem Text.contains_iff_isInfix {piece cs : List Char} :
    Text.contains piece cs = true ↔ piece <:+: cs := by
  induction cs with
  | nil => rw [Text.contains, List.isEmpty_iff, List.infix_nil]
  | cons c cs ih =>
      rw [Text.contains, Bool.or_eq_true, List.isPrefixOf_iff_prefix, ih, List.infix_cons_iff]

/-! ### The shortest of several names -/

/-- `a` has fewer bytes than `b`, or as many, and comes no later in the order of code points. -/
def NoLonger (a b : String) : Prop :=
  a.utf8ByteSize < b.utf8ByteSize ∨ a.utf8ByteSize = b.utf8ByteSize ∧ a ≤ b

theorem not_shorterText_iff {a b : String} : ¬ shorterText a b = true ↔ NoLonger b a := by
  simp only [shorterText, NoLonger, Bool.or_eq_true, Bool.and_eq_true, decide_eq_true_eq, not_or,
    not_and, String.not_lt]
  constructor
  · rintro ⟨hsize, horder⟩
    rcases Nat.lt_or_eq_of_le (Nat.le_of_not_lt hsize) with hless | hequal
    · exact Or.inl hless
    · exact Or.inr ⟨hequal, horder hequal.symm⟩
  · rintro (hless | ⟨hequal, horder⟩)
    · exact ⟨by omega, by omega⟩
    · exact ⟨by omega, fun _ => horder⟩

theorem NoLonger.refl (a : String) : NoLonger a a := Or.inr ⟨rfl, String.le_refl a⟩

theorem NoLonger.trans {a b c : String} (hab : NoLonger a b) (hbc : NoLonger b c) :
    NoLonger a c := by
  rcases hab with hab | ⟨hab, horder⟩ <;> rcases hbc with hbc | ⟨hbc, horder'⟩
  · exact Or.inl (by omega)
  · exact Or.inl (by omega)
  · exact Or.inl (by omega)
  · exact Or.inr ⟨hab.trans hbc, String.le_trans horder horder'⟩

theorem NoLonger.antisymm {a b : String} (hab : NoLonger a b) (hba : NoLonger b a) : a = b := by
  rcases hab with hab | ⟨hab, horder⟩ <;> rcases hba with hba | ⟨hba, horder'⟩
  · omega
  · omega
  · omega
  · exact String.le_antisymm horder horder'

theorem noLonger_of_shorterText {a b : String} (h : shorterText a b = true) : NoLonger a b := by
  simp only [shorterText, Bool.or_eq_true, Bool.and_eq_true, decide_eq_true_eq] at h
  exact h.imp_right fun ⟨hsize, horder⟩ =>
    ⟨hsize, String.not_lt.mp (String.lt_asymm horder)⟩

/-- The best name so far after one more name. -/
def shorter? (best : Option String) (name : String) : Option String :=
  match best with
  | none => some name
  | some b => some (if shorterText name b then name else b)

theorem foldl_shorter? (names : List String) (best : String) :
    ∃ m ∈ best :: names, names.foldl shorter? (some best) = some m ∧
      ∀ name ∈ best :: names, NoLonger m name := by
  induction names generalizing best with
  | nil => exact ⟨best, List.mem_cons_self, rfl, by simp [NoLonger.refl]⟩
  | cons name names ih =>
      obtain ⟨m, hm, hfold, hleast⟩ := ih (if shorterText name best then name else best)
      obtain ⟨hkept, hnames⟩ := List.forall_mem_cons.mp hleast
      refine ⟨m, ?_, hfold, ?_⟩
      · rw [List.mem_cons] at hm ⊢
        rw [List.mem_cons]
        split at hm <;> tauto
      · -- The name that is dropped here is no shorter than the one that is kept.
        rw [List.forall_mem_cons, List.forall_mem_cons]
        by_cases hshorter : shorterText name best = true
        · rw [if_pos hshorter] at hkept
          exact ⟨hkept.trans (noLonger_of_shorterText hshorter), hkept, hnames⟩
        · rw [if_neg hshorter] at hkept
          exact ⟨hkept, hkept.trans (not_shorterText_iff.mp hshorter), hnames⟩

/-- `name` is one of the names that contain a query, and of these it has the fewest bytes; of
equally long ones it is the first in the order of code points. -/
structure IsShortest (query : String) (names : List String) (name : String) : Prop where
  mem : name ∈ names
  contains : query.toList <:+: name.toList
  least : ∀ other ∈ names, query.toList <:+: other.toList → NoLonger name other

theorem IsShortest.unique {query : String} {names : List String} {a b : String}
    (ha : IsShortest query names a) (hb : IsShortest query names b) : a = b :=
  (ha.least b hb.mem hb.contains).antisymm (hb.least a ha.mem ha.contains)

theorem shortestContaining?_cases (query : String) (names : List String) :
    (∃ m, shortestContaining? query names = some m ∧ query ≠ "" ∧ IsShortest query names m) ∨
      shortestContaining? query names = none ∧
        (query ≠ "" → ∀ name ∈ names, ¬ query.toList <:+: name.toList) := by
  rw [shortestContaining?]
  by_cases hquery : query = ""
  · refine Or.inr ⟨if_pos (String.isEmpty_iff.mpr hquery), fun h => absurd hquery h⟩
  · rw [if_neg (mt String.isEmpty_iff.mp hquery)]
    change (∃ m, List.foldl shorter? none _ = some m ∧ _) ∨ List.foldl shorter? none _ = none ∧ _
    have hmem (name : String) : name ∈ names.filter (fun name => containsText name query) ↔
        name ∈ names ∧ query.toList <:+: name.toList := by
      rw [List.mem_filter, containsText, Text.contains_iff_isInfix]
    cases hfilter : names.filter fun name => containsText name query with
    | nil =>
        refine Or.inr ⟨rfl, fun _ name hname hcontains => ?_⟩
        have hnone := (hmem name).mpr ⟨hname, hcontains⟩
        rw [hfilter] at hnone
        cases hnone
    | cons first rest =>
        obtain ⟨m, hm, hfold, hleast⟩ := foldl_shorter? rest first
        rw [← hfilter] at hm hleast
        obtain ⟨hnames, hcontains⟩ := (hmem m).mp hm
        refine Or.inl ⟨m, hfold, hquery, hnames, hcontains, fun other hother hpart => ?_⟩
        exact hleast other ((hmem other).mpr ⟨hother, hpart⟩)

namespace Taxonomy

variable {t : Taxonomy}

/-! ### Entries by name -/

def lowerNames (t : Taxonomy) : List String := t.entries.map fun e => lowercase e.name

/-- `e` is the last entry with a name, which is given in lowercase. -/
structure IsNamed (t : Taxonomy) (name : String) (e : Subcategory) : Prop where
  name_eq : lowercase e.name = name
  last : ∃ earlier later, t.entries = earlier ++ e :: later ∧
    ∀ other ∈ later, lowercase other.name ≠ name

theorem IsNamed.mem {name : String} {e : Subcategory} (h : t.IsNamed name e) : e ∈ t.entries := by
  obtain ⟨earlier, later, hentries, -⟩ := h.last
  rw [hentries]
  exact List.mem_append_right _ List.mem_cons_self

theorem IsNamed.mem_lowerNames {name : String} {e : Subcategory} (h : t.IsNamed name e) :
    name ∈ t.lowerNames :=
  List.mem_map.mpr ⟨e, h.mem, h.name_eq⟩

def named? (t : Taxonomy) (name : String) : Option Subcategory :=
  t.entries.reverse.find? fun e => lowercase e.name == name

theorem named?_eq_some_iff {name : String} {e : Subcategory} :
    t.named? name = some e ↔ t.IsNamed name e := by
  rw [named?, List.find?_eq_some_iff_append]
  constructor
  · rintro ⟨hname, later, earlier, hentries, hlater⟩
    refine ⟨beq_iff_eq.mp hname, earlier.reverse, later.reverse, ?_, fun other hother => ?_⟩
    · rw [← List.reverse_reverse t.entries, hentries]
      simp
    · simpa using hlater other (List.mem_reverse.mp hother)
  · rintro ⟨hname, earlier, later, hentries, hlater⟩
    refine ⟨beq_iff_eq.mpr hname, later.reverse, earlier.reverse, ?_, fun other hother => ?_⟩
    · rw [hentries]
      simp
    · simpa using hlater other (List.mem_reverse.mp hother)

theorem IsNamed.unique {name : String} {e e' : Subcategory} (h : t.IsNamed name e)
    (h' : t.IsNamed name e') : e = e' :=
  Option.some.inj ((named?_eq_some_iff.mpr h).symm.trans (named?_eq_some_iff.mpr h'))

theorem named?_eq_none_iff {name : String} : t.named? name = none ↔ name ∉ t.lowerNames := by
  rw [named?, List.find?_eq_none, lowerNames, List.mem_map]
  simp

theorem exists_isNamed {name : String} (h : name ∈ t.lowerNames) : ∃ e, t.IsNamed name e := by
  cases hnamed : t.named? name with
  | none => exact absurd h (named?_eq_none_iff.mp hnamed)
  | some e => exact ⟨e, named?_eq_some_iff.mp hnamed⟩

theorem idOfName?_eq (t : Taxonomy) (name : String) :
    t.idOfName? name = (t.named? name).map (·.id) := rfl

/-- With different ids, no id that is found by name is without its entry. -/
theorem subcategory?_id (hids : (t.entries.map (·.id)).Nodup) {e : Subcategory}
    (he : e ∈ t.entries) : t.subcategory? e.id = some e := by
  cases hfind : t.subcategory? e.id with
  | none =>
      have hnone := List.find?_eq_none.mp hfind e (List.mem_reverse.mpr he)
      simp at hnone
  | some other =>
      have hid : other.id = e.id := by simpa using List.find?_some hfind
      have hother : other ∈ t.entries := List.mem_reverse.mp (List.mem_of_find?_eq_some hfind)
      rw [List.inj_on_of_nodup_map hids hother he hid]

/-! ### The rules -/

/-- A query is a word for a kind of part, and the catalog has the subcategory it stands for. -/
def MeansKind (t : Taxonomy) (query : String) : Prop :=
  ∃ target, subcategoryOfKeyword? query = some target ∧ target ∈ t.lowerNames

/-- A name has one of the longer words of a query in it. -/
def Suggests (query : String) (e : Subcategory) : Prop :=
  ∃ word ∈ Text.words query.toList, 3 ≤ word.length ∧ word <:+: (lowercase e.name).toList

instance (query : String) (e : Subcategory) : Decidable (Suggests query e) :=
  inferInstanceAs (Decidable (∃ word ∈ Text.words query.toList, _))

def notFound (t : Taxonomy) (name query : String) : NotFound where
  kind := .subcategory
  name := name
  suggestions := ((t.entries.filter fun e => decide (Suggests query e)).map (·.name)).take 5

/-- What a name may be resolved to, with `query` for its trimmed form in lowercase. -/
inductive Resolution (t : Taxonomy) (name query : String) : Except NotFound Subcategory → Prop where
  /-- The subcategory that a word for a kind of part stands for. -/
  | kind {target : String} {e : Subcategory} (hword : subcategoryOfKeyword? query = some target)
      (he : t.IsNamed target e) : Resolution t name query (.ok e)
  /-- The subcategory of that name. -/
  | exact {e : Subcategory} (hword : ¬ t.MeansKind query) (he : t.IsNamed query e) :
      Resolution t name query (.ok e)
  /-- The subcategory with the shortest name that contains the query. -/
  | part {shortest : String} {e : Subcategory} (hword : ¬ t.MeansKind query)
      (hname : query ∉ t.lowerNames) (hquery : query ≠ "")
      (hshortest : IsShortest query t.lowerNames shortest) (he : t.IsNamed shortest e) :
      Resolution t name query (.ok e)
  /-- Nothing, and the first five names with a longer word of the query in them are suggested. -/
  | nothing (hword : ¬ t.MeansKind query) (hname : query ∉ t.lowerNames)
      (hpart : query ≠ "" → ∀ other ∈ t.lowerNames, ¬ query.toList <:+: other.toList) :
      Resolution t name query (.error (t.notFound name query))

theorem Resolution.unique {name query : String} {a b : Except NotFound Subcategory}
    (ha : t.Resolution name query a) (hb : t.Resolution name query b) : a = b := by
  have hmeans {target : String} {e : Subcategory}
      (hword : subcategoryOfKeyword? query = some target) (he : t.IsNamed target e) :
      t.MeansKind query := ⟨target, hword, he.mem_lowerNames⟩
  -- The rules exclude one another, and by the same rule the same entry is meant.
  cases ha with
  | kind hword he =>
      cases hb with
      | kind hword' he' =>
          obtain rfl := Option.some.inj (hword.symm.trans hword')
          rw [he.unique he']
      | exact hno _ | part hno _ _ _ _ | nothing hno _ _ => exact absurd (hmeans hword he) hno
  | exact hno he =>
      cases hb with
      | kind hword he' => exact absurd (hmeans hword he') hno
      | exact _ he' => rw [he.unique he']
      | part _ hname _ _ _ | nothing _ hname _ => exact absurd he.mem_lowerNames hname
  | part hno hname hquery hshortest he =>
      cases hb with
      | kind hword he' => exact absurd (hmeans hword he') hno
      | exact _ he' => exact absurd he'.mem_lowerNames hname
      | part _ _ _ hshortest' he' =>
          obtain rfl := hshortest.unique hshortest'
          rw [he.unique he']
      | nothing _ _ hpart => exact absurd hshortest.contains (hpart hquery _ hshortest.mem)
  | nothing hno hname hpart =>
      cases hb with
      | kind hword he' => exact absurd (hmeans hword he') hno
      | exact _ he' => exact absurd he'.mem_lowerNames hname
      | part _ _ hquery hshortest _ =>
          exact absurd hshortest.contains (hpart hquery _ hshortest.mem)
      | nothing _ _ _ => rfl

/-! ### The search keeps to the rules -/

theorem suggestionsFor_eq (t : Taxonomy) (query : String) :
    suggestionsFor query (t.entries.map (·.name)) =
      ((t.entries.filter fun e => decide (Suggests query e)).map (·.name)).take 5 := by
  rw [suggestionsFor, List.filter_map]
  congr 2
  apply List.filter_congr
  intro e _
  rw [Function.comp_apply, Bool.eq_iff_iff, List.any_eq_true, decide_eq_true_eq]
  simp only [List.mem_filter, decide_eq_true_eq, Text.contains_iff_isInfix, and_assoc]
  rfl

def resolve? (t : Taxonomy) (query : String) : Option Subcategory :=
  (subcategoryOfKeyword? query).bind t.named? <|> t.named? query <|>
    (shortestContaining? query t.lowerNames).bind t.named?

theorem resolveId?_eq (t : Taxonomy) (query : String) :
    t.resolveId? query = (t.resolve? query).map (·.id) := by
  have hbind (x : Option String) : x.bind t.idOfName? = (x.bind t.named?).map (·.id) := by
    cases x <;> rfl
  simp only [resolveId?, resolve?, hbind, idOfName?_eq, lowerNames, Option.orElse_eq_orElse,
    Option.orElse_eq_or, Option.map_or]

theorem mem_of_resolve? {query : String} {e : Subcategory} (h : t.resolve? query = some e) :
    e ∈ t.entries := by
  have hnamed {name : String} (h : t.named? name = some e) : e ∈ t.entries :=
    (named?_eq_some_iff.mp h).mem
  simp only [resolve?, Option.orElse_eq_orElse, Option.orElse_eq_or, Option.or_eq_some_iff,
    Option.bind_eq_some_iff] at h
  rcases h with ⟨_, -, h⟩ | ⟨-, h | ⟨-, _, -, h⟩⟩
  · exact hnamed h
  · exact hnamed h
  · exact hnamed h

theorem resolveSubcategory_eq (hids : (t.entries.map (·.id)).Nodup) (name : String) :
    t.resolveSubcategory name =
      match t.resolve? (lowercase (trimmed name)) with
      | some e => .ok e
      | none => .error (t.notFound name (lowercase (trimmed name))) := by
  have hentry : (t.resolveId? (lowercase (trimmed name))).bind t.subcategory? =
      t.resolve? (lowercase (trimmed name)) := by
    rw [resolveId?_eq]
    cases hresolve : t.resolve? (lowercase (trimmed name)) with
    | none => rfl
    | some e => exact subcategory?_id hids (mem_of_resolve? hresolve)
  simp only [resolveSubcategory, hentry, suggestionsFor_eq]
  cases t.resolve? (lowercase (trimmed name)) <;> rfl

theorem resolution_resolve? (t : Taxonomy) (name query : String) :
    t.Resolution name query
      (match t.resolve? query with
      | some e => .ok e
      | none => .error (t.notFound name query)) := by
  cases hkind : (subcategoryOfKeyword? query).bind t.named? with
  | some e =>
      obtain ⟨target, hword, hnamed⟩ := Option.bind_eq_some_iff.mp hkind
      rw [resolve?, hkind]
      exact .kind hword (named?_eq_some_iff.mp hnamed)
  | none =>
      have hno : ¬ t.MeansKind query := by
        rintro ⟨target, hword, htarget⟩
        rw [hword] at hkind
        exact named?_eq_none_iff.mp hkind htarget
      cases hexact : t.named? query with
      | some e =>
          rw [resolve?, hkind, hexact]
          exact .exact hno (named?_eq_some_iff.mp hexact)
      | none =>
          have hname := named?_eq_none_iff.mp hexact
          rw [resolve?, hkind, hexact]
          rcases shortestContaining?_cases query t.lowerNames with
            ⟨shortest, hfind, hquery, hshortest⟩ | ⟨hfind, hpart⟩
          · obtain ⟨e, he⟩ := exists_isNamed hshortest.mem
            rw [hfind, Option.bind_some, named?_eq_some_iff.mpr he]
            exact .part hno hname hquery hshortest he
          · rw [hfind]
            exact .nothing hno hname hpart

/-- In a catalog with different ids a name is resolved as the rules say, and in no other way. -/
theorem resolveSubcategory_eq_iff (hids : (t.entries.map (·.id)).Nodup) {name : String}
    {answer : Except NotFound Subcategory} :
    t.resolveSubcategory name = answer ↔
      t.Resolution name (lowercase (trimmed name)) answer := by
  have hrules := t.resolution_resolve? name (lowercase (trimmed name))
  rw [← resolveSubcategory_eq hids] at hrules
  exact ⟨fun h => h ▸ hrules, hrules.unique⟩

/-- Of two names that differ in case the later one counts, and it is shorter than the other name
with the query in it. -/
theorem resolveSubcategory_eq_iff_crystal :
    let t : Taxonomy := ⟨[⟨1, "Crystals", none⟩, ⟨2, "Crystal Oscillators", none⟩,
      ⟨3, "CRYSTALS", none⟩]⟩
    (t.entries.map (·.id)).Nodup ∧
      t.Resolution " Crystal " (lowercase (trimmed " Crystal ")) (.ok ⟨3, "CRYSTALS", none⟩) := by
  intro t
  have hids : (t.entries.map (·.id)).Nodup := by decide
  exact ⟨hids, (resolveSubcategory_eq_iff hids).mp (by decide +kernel)⟩

end Taxonomy

end PartSearch
