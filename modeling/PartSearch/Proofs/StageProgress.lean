import Mathlib.Data.List.Chain
import PartSearch.Proofs.ValueSpans
import PartSearch.Query.Parsed

/-!
# What a reading keeps from stage to stage

A stage takes what it recognizes out of the text, so what it hands on is left of what it was given:
`Leaves`. What is known of the query only grows: filters are added behind the ones that are there,
and a subcategory may be replaced but not forgotten. `drafts_progress` says so of the whole reading.
-/

namespace PartSearch

/-! ### Texts that are left of others -/

/-- The visible characters of `rest` are some of those of `text`, in the same order. -/
def Leaves (text rest : String) : Prop :=
  (Text.visible rest.toList).Sublist (Text.visible text.toList)

theorem Leaves.refl (text : String) : Leaves text text := List.Sublist.refl _

theorem Leaves.trans {a b c : String} (hab : Leaves a b) (hbc : Leaves b c) : Leaves a c :=
  List.Sublist.trans hbc hab

open Text

theorem leaves_remove {p : Pattern} {text : String} {m : Found}
    (h : p.find? text.toList = some m) : Leaves text (String.ofList m.remove) := by
  rw [Leaves, String.toList_ofList]
  exact visible_remove (Pattern.finds_of_find? h)

theorem leaves_removeWords (p : Pattern) (text : String) :
    Leaves text (String.ofList (p.removeWords text.toList)) := by
  rw [Leaves, String.toList_ofList]
  exact visible_removeWords p text.toList

/-- Phrases are looked for in small letters, which stand where the letters of the text do. -/
theorem apart_phraseSpans_asciiLower (cs phrase : List Char) :
    Span.Apart 0 cs.length (phraseSpans (asciiLower cs) phrase) := by
  have h := apart_phraseSpans (asciiLower cs) phrase
  rwa [asciiLower, List.length_map] at h

theorem Model.leaves_extract (text : String) : Leaves text (extract text).2 := by
  unfold extract
  split
  · rename_i m hm
    obtain ⟨shape, -, hshape⟩ := List.exists_of_findSome?_eq_some hm
    exact leaves_remove (Option.filter_eq_some_iff.mp hshape).1
  · exact .refl text

theorem PackageHit.leaves_ofOccurrence {p : Pattern} {text : String} {m : Found}
    (meaning : Meaning) (h : p.Finds text.toList m) :
    Leaves text (ofOccurrence text meaning m).2 := by
  have hremove : Leaves text (String.ofList m.remove) := by
    rw [Leaves, String.toList_ofList]
    exact visible_remove h
  cases meaning with
  | designator => exact hremove
  | diodeOutline => exact hremove
  | diodeCode => exact hremove
  | receptacle => exact .refl text

theorem PackageHit.finds_of_occurrence? {p : Pattern} {meaning : Meaning} {cs : List Char}
    {m : Found} (h : occurrence? p meaning cs = some m) : (Pattern.wordOf p).Finds cs m := by
  unfold occurrence? at h
  split at h
  · exact (Pattern.finds_of_mem_findAll (List.mem_of_find?_eq_some h)).1
  · exact Pattern.finds_of_find? h

theorem PackageHit.leaves_extract (text : String) : Leaves text (extract text).2 := by
  simp only [extract]
  split
  · rename_i meaning m hm
    obtain ⟨⟨p, other⟩, -, hfamily⟩ := List.exists_of_findSome?_eq_some hm
    obtain ⟨found, hfound, heq⟩ := Option.map_eq_some_iff.mp hfamily
    obtain ⟨rfl, rfl⟩ := Prod.mk.inj heq
    exact leaves_ofOccurrence _ (finds_of_occurrence? hfound)
  · exact .refl text

theorem Mounting.leaves_extract (text : String) : Leaves text (extract text).2 := by
  simp only [extract]
  split
  · rename_i m _ hm
    exact leaves_remove hm
  · rename_i m _ hm
    exact leaves_remove hm
  · exact .refl text

theorem Connector.leaves_extract (text : String) : Leaves text (extract text).2 := by
  unfold extract
  split
  · rename_i connector m hm
    obtain ⟨⟨p, other⟩, -, hpattern⟩ := List.exists_of_findSome?_eq_some hm
    obtain ⟨found, hfound, heq⟩ := Option.map_eq_some_iff.mp hpattern
    obtain ⟨rfl, rfl⟩ := Prod.mk.inj heq
    exact leaves_remove hfound
  · exact .refl text

theorem Channel.leaves_extract (text : String) : Leaves text (extract text).2 := by
  unfold extract
  split
  · exact leaves_removeWords _ text
  · exact .refl text

theorem Keyword.leaves_extract (text : String) : Leaves text (extract text).2 := by
  simp only [extract]
  split
  · rw [Leaves, String.toList_ofList]
    exact Span.visible_cut_sublist (apart_phraseSpans_asciiLower _ _)
  · exact .refl text

theorem PartKind.leaves_leadedElectrolytic? {subcategory text leaded rest : String}
    {mounting : Option Mounting}
    (h : leadedElectrolytic? subcategory text mounting = some (leaded, rest)) :
    Leaves text rest := by
  unfold leadedElectrolytic? at h
  split at h
  · cases h
  · split at h
    · cases h
      exact leaves_removeWords _ text
    · split at h
      · cases h
        exact .refl text
      · cases h

theorem PartKind.leaves_potentiometer? {subcategory : Option String} {text : String}
    {found : String × String} (h : potentiometer? subcategory text = some found) :
    Leaves text found.2 := by
  unfold potentiometer? at h
  split at h
  · cases h
  · split at h
    · cases h
      exact leaves_removeWords _ text
    · cases h

theorem SpecValue.leaves_extract (ν : Type) [Number ν] (text : String) :
    Leaves text (extract ν text).2 := by
  rw [Leaves, extract, String.toList_ofList]
  exact Span.visible_cut_sublist (apart_select_candidates ν text.toList)

theorem Residue.leaves_takeInteger? {max : Nat} {text : String} {found : Nat × String}
    (h : takeInteger? max text = some found) : Leaves text found.2 := by
  obtain ⟨m, hm, h⟩ := Option.bind_eq_some_iff.mp h
  obtain ⟨n, -, h⟩ := Option.bind_eq_some_iff.mp h
  split at h
  · cases h
    exact leaves_remove hm
  · cases h

theorem Residue.leaves_takeRows? {text : String} {found : Nat × String}
    (h : takeRows? text = some found) : Leaves text found.2 := by
  obtain ⟨⟨rows, p⟩, -, rfl⟩ := Option.map_eq_some_iff.mp h
  exact leaves_removeWords p text

theorem Descriptor.visible_take (found : List Descriptor × List Char) (d : Descriptor) :
    (visible (take found d).2).Sublist (visible found.2) := by
  simp only [take]
  split
  · exact List.Sublist.refl _
  · exact Span.visible_cut_sublist (apart_phraseSpans_asciiLower _ _)

theorem Descriptor.visible_foldl_take (ds : List Descriptor)
    (found : List Descriptor × List Char) :
    (visible (ds.foldl take found).2).Sublist (visible found.2) := by
  induction ds generalizing found with
  | nil => exact List.Sublist.refl _
  | cons d ds ih => exact (ih (take found d)).trans (visible_take found d)

theorem Descriptor.leaves_extract (text : String) : Leaves text (extract text).2 := by
  rw [Leaves, extract, String.toList_ofList]
  exact visible_foldl_take phrases ([], text.toList)

/-! ### Drafts -/

namespace Draft

variable {ν : Type}

/-- Nothing that is known in `d` is lost in `e`. -/
structure Grows (d e : Draft ν) : Prop where
  filters : d.filters <+: e.filters
  subcategory : d.subcategory.isSome = true → e.subcategory.isSome = true

theorem Grows.of_eq {d e : Draft ν} (hfilters : e.filters = d.filters)
    (hsubcategory : e.subcategory = d.subcategory) : Grows d e where
  filters := hfilters ▸ List.prefix_rfl
  subcategory := by rw [hsubcategory]; exact id

theorem Grows.of_subcategory {d e : Draft ν} (hfilters : e.filters = d.filters)
    (hsubcategory : e.subcategory.isSome = true) : Grows d e where
  filters := hfilters ▸ List.prefix_rfl
  subcategory := fun _ => hsubcategory

theorem Grows.trans {c d e : Draft ν} (hcd : Grows c d) (hde : Grows d e) : Grows c e where
  filters := hcd.filters.trans hde.filters
  subcategory := hde.subcategory ∘ hcd.subcategory

/-- A step that reads: what is known grows, and the text that is handed on is left of the text. -/
structure Reads (d e : Draft ν) : Prop extends Grows d e where
  text : Leaves d.remaining e.remaining

theorem Reads.of_text {d e : Draft ν} (hfilters : e.filters = d.filters)
    (hsubcategory : e.subcategory = d.subcategory) (htext : Leaves d.remaining e.remaining) :
    Reads d e :=
  ⟨.of_eq hfilters hsubcategory, htext⟩

theorem Reads.refl (d : Draft ν) : Reads d d := .of_text rfl rfl (.refl _)

theorem Reads.trans {c d e : Draft ν} (hcd : Reads c d) (hde : Reads d e) : Reads c e :=
  ⟨hcd.toGrows.trans hde.toGrows, hcd.text.trans hde.text⟩

instance instTransGrows : Trans (Grows (ν := ν)) (Grows (ν := ν)) (Grows (ν := ν)) := ⟨.trans⟩

instance instTransReads : Trans (Reads (ν := ν)) (Reads (ν := ν)) (Reads (ν := ν)) := ⟨.trans⟩

/-! ### Stages that read text -/

theorem readModel_reads (d : Draft ν) : Reads d d.readModel := by
  have hrest := Model.leaves_extract d.remaining
  unfold readModel
  split
  · rename_i heq
    rw [heq] at hrest
    exact .of_text rfl rfl hrest
  · exact .refl d

theorem readPackage_reads (d : Draft ν) : Reads d d.readPackage :=
  .of_text rfl rfl (PackageHit.leaves_extract d.remaining)

theorem readMounting_reads (d : Draft ν) : Reads d d.readMounting := by
  have hrest := Mounting.leaves_extract d.remaining
  unfold readMounting
  split
  · rename_i heq
    rw [heq] at hrest
    exact .of_text rfl rfl hrest
  · exact .refl d

theorem readConnector_reads (d : Draft ν) : Reads d d.readConnector := by
  have hrest := Connector.leaves_extract d.remaining
  unfold readConnector
  split
  · rename_i heq
    rw [heq] at hrest
    exact .of_text rfl rfl hrest
  · exact .refl d

theorem readChannel_reads (d : Draft ν) : Reads d d.readChannel := by
  have hrest := Channel.leaves_extract d.remaining
  unfold readChannel
  split
  · rename_i heq
    rw [heq] at hrest
    exact ⟨⟨List.prefix_append _ _, id⟩, hrest⟩
  · exact .refl d

theorem readKeyword_reads (d : Draft ν) : Reads d d.readKeyword := by
  have hrest := Keyword.leaves_extract d.remaining
  unfold readKeyword
  split
  · rename_i heq
    rw [heq] at hrest
    exact .of_text rfl rfl hrest
  · exact .refl d

theorem redirectLeaded_reads (d : Draft ν) (subcategory : String) :
    Reads d (d.redirectLeaded subcategory).1 := by
  unfold redirectLeaded
  split
  · rename_i heq
    exact .of_text rfl rfl (PartKind.leaves_leadedElectrolytic? heq)
  · exact .refl d

theorem withSubcategory_reads (d : Draft ν) (subcategory : String) :
    Reads d (d.withSubcategory subcategory) :=
  ⟨.of_subcategory rfl rfl, .refl _⟩

theorem readKind_reads (d : Draft ν) : Reads d d.readKind := by
  have hwords : Reads d d.readChannel.readKeyword :=
    d.readChannel_reads.trans d.readChannel.readKeyword_reads
  simp only [readKind]
  split
  · rename_i subcategory _
    exact hwords.trans ((redirectLeaded_reads _ subcategory).trans (withSubcategory_reads _ _))
  · exact hwords

section Values

variable [Number ν]

theorem readUnits_reads (d : Draft ν) : Reads d d.readUnits :=
  .of_text rfl rfl (SpecValue.leaves_extract ν d.remaining)

theorem addCount_reads (d : Draft ν) (q : Quantity) (unit : String) {max : Nat}
    {found : Nat × String} (h : Residue.takeInteger? max d.remaining = some found) :
    Reads d (d.addCount q unit found) :=
  .of_text rfl rfl (Residue.leaves_takeInteger? h)

theorem readImpedance_reads (d : Draft ν) : Reads d d.readImpedance := by
  simp only [readImpedance]
  split
  · split
    · rename_i heq
      refine Reads.trans ?_ (addCount_reads _ .impedance "Ohm" heq)
      exact .of_text rfl rfl (.refl _)
    · exact .of_text rfl rfl (.refl _)
  · exact .refl d

theorem readBarePins_reads (d : Draft ν) : Reads d d.readBarePins := by
  unfold readBarePins
  split
  · split
    · rename_i heq
      exact d.addCount_reads .pinCount "P" heq
    · exact .refl d
  · exact .refl d

theorem readValues_reads (d : Draft ν) : Reads d d.readValues := by
  have hvalues : Reads d d.readUnits.readImpedance.readBarePins :=
    d.readUnits_reads.trans (d.readUnits.readImpedance_reads.trans (readBarePins_reads _))
  exact hvalues.trans (.of_text rfl rfl (.refl _))

end Values

theorem inferSubcategory_reads (d : Draft ν) : Reads d d.inferSubcategory := by
  unfold inferSubcategory
  split
  · exact ⟨.of_subcategory rfl rfl, .refl _⟩
  · exact .refl d

theorem readSubcategory_reads (d : Draft ν) : Reads d d.readSubcategory := by
  refine d.inferSubcategory_reads.trans ?_
  simp only [readSubcategory]
  split
  · rename_i heq
    exact ⟨.of_subcategory rfl rfl, PartKind.leaves_potentiometer? heq⟩
  · exact .refl _

theorem foldl_note_reads (found : List Descriptor) (d : Draft ν) :
    Reads d (found.foldl (fun d f => d.note f.phrase) d) := by
  induction found generalizing d with
  | nil => exact .refl d
  | cons f found ih =>
      refine Reads.trans ?_ (ih (d.note f.phrase))
      exact .of_text rfl rfl (.refl _)

theorem readDescriptors_reads (d : Draft ν) : Reads d d.readDescriptors := by
  simp only [readDescriptors]
  split
  · exact .refl d
  · refine Reads.trans ?_ (foldl_note_reads _ _)
    exact .of_text rfl rfl (Descriptor.leaves_extract d.remaining)

theorem usePackageSize_reads (d : Draft ν) : Reads d d.usePackageSize := by
  unfold usePackageSize
  split
  · exact .of_text rfl rfl (.refl _)
  · exact .refl d

theorem useValues_reads (d : Draft ν) : Reads d d.useValues := by
  simp only [useValues]
  split
  · exact .of_text rfl rfl (.refl _)
  · exact ⟨⟨List.prefix_append _ _, id⟩, .refl _⟩

theorem useDescriptors_reads (d : Draft ν) : Reads d d.useDescriptors := by
  have hfold (found : List Descriptor) (filters : List SpecFilter) :
      filters <+: found.foldl (fun filters f =>
        if filters.contains f.filter then filters else filters ++ [f.filter]) filters := by
    induction found generalizing filters with
    | nil => exact List.prefix_rfl
    | cons f found ih =>
        rw [List.foldl_cons]
        split
        · exact ih filters
        · exact (List.prefix_append _ _).trans (ih _)
  exact ⟨⟨hfold d.descriptors d.filters, id⟩, .refl _⟩

theorem useDual_reads (d : Draft ν) : Reads d d.useDual := by
  have hrest := leaves_removeWords Residue.dualWord d.remaining
  simp only [useDual]
  split
  · split
    · exact ⟨⟨List.prefix_append _ _, id⟩, hrest⟩
    · exact .of_text rfl rfl hrest
  · exact .refl d

theorem useRows_reads (d : Draft ν) : Reads d d.useRows := by
  unfold useRows
  split
  · rename_i heq
    split at heq
    · exact .of_text rfl rfl (Residue.leaves_takeRows? heq)
    · cases heq
  · exact .refl d

theorem makeFilters_reads (d : Draft ν) : Reads d d.makeFilters :=
  d.usePackageSize_reads.trans <| (useValues_reads _).trans <| (useDescriptors_reads _).trans <|
    (useDual_reads _).trans (useRows_reads _)

/-! ### The whole reading -/

end Draft

namespace Stage

variable {ν : Type} [Number ν]

/-- The stages up to the last one that reads filters out of the text. -/
theorem reads_of_mem_take {stage : Stage ν} (h : stage ∈ all.take 9) (d : Draft ν) :
    Draft.Reads d (stage.run d) := by
  simp only [all, List.take_succ_cons, List.take_zero, List.mem_cons, List.not_mem_nil,
    or_false] at h
  rcases h with rfl | rfl | rfl | rfl | rfl | rfl | rfl | rfl | rfl
  · exact d.readModel_reads
  · exact d.readPackage_reads
  · exact d.readMounting_reads
  · exact d.readConnector_reads
  · exact d.readKind_reads
  · exact d.readValues_reads
  · exact d.readSubcategory_reads
  · exact d.readDescriptors_reads
  · exact d.makeFilters_reads

theorem grows_of_mem {stage : Stage ν} (h : stage ∈ all) (d : Draft ν) :
    Draft.Grows d (stage.run d) := by
  rw [← List.take_append_drop 9 all, List.mem_append] at h
  rcases h with hreads | hends
  · exact (reads_of_mem_take hreads d).toGrows
  · simp only [all, List.drop_succ_cons, List.drop_zero, List.mem_cons, List.not_mem_nil,
      or_false] at hends
    rcases hends with rfl | rfl
    · exact .of_eq rfl rfl
    · exact .of_eq rfl rfl

/-- The drafts of a reading: the query, and what each stage makes of the draft before it. -/
def drafts (ν : Type) [Number ν] (query : String) : List (Draft ν) :=
  all.scanl (fun d stage => stage.run d) (.ofQuery query)

omit [Number ν] in
/-- What every single stage keeps is kept from any draft of a run to any later one. -/
theorem pairwise_scanl_run {R : Draft ν → Draft ν → Prop} [Trans R R R]
    {stages : List (Stage ν)} (hstep : ∀ stage ∈ stages, ∀ d, R d (stage.run d)) (d : Draft ν) :
    (stages.scanl (fun d stage => stage.run d) d).Pairwise R := by
  rw [← List.isChain_iff_pairwise]
  induction stages generalizing d with
  | nil => simp
  | cons stage stages ih =>
      obtain ⟨hstage, hstages⟩ := List.forall_mem_cons.mp hstep
      rw [List.scanl_cons]
      apply (ih hstages (stage.run d)).cons
      intro e he
      rw [List.head?_scanl] at he
      obtain rfl := Option.some.inj he
      exact hstage d

omit [Number ν] in
theorem ofStages_eq (stages : List (Stage ν)) (d : Draft ν) :
    StageTrace.ofStages stages d = stages.zipWith
      (fun stage e => ⟨stage.name, e.remaining, e.filters.length⟩)
        (stages.scanl (fun d stage => stage.run d) d).tail := by
  induction stages generalizing d with
  | nil => rfl
  | cons stage stages ih =>
      rw [StageTrace.ofStages, ih]
      cases stages with
      | nil => rfl
      | cons next stages => simp only [List.scanl_cons, List.tail_cons, List.zipWith_cons_cons]

/-- From any draft of a reading to any later one what is known grows, and up to the filters no stage
adds to the text. The reading ends with the last draft, and its trace tells of the others. -/
theorem drafts_progress (query : String) :
    (drafts ν query).Pairwise Draft.Grows ∧ ((drafts ν query).take 10).Pairwise Draft.Reads ∧
      (drafts ν query).getLast?.map ParsedQuery.ofDraft = some (ParsedQuery.ofText ν query) ∧
      StageTrace.ofText ν query = (all : List (Stage ν)).zipWith
        (fun stage d => ⟨stage.name, d.remaining, d.filters.length⟩) (drafts ν query).tail := by
  refine ⟨?_, ?_, ?_, ?_⟩
  · exact pairwise_scanl_run (fun stage hstage d => grows_of_mem hstage d) _
  · rw [drafts, List.take_scanl]
    exact pairwise_scanl_run (fun stage hstage d => reads_of_mem_take hstage d) _
  · rw [drafts, List.getLast?_scanl]
    rfl
  · exact ofStages_eq all _

end Stage

end PartSearch
