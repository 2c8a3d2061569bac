import PartSearch.Proofs.StageFrame

/-!
# Filters of connectors

Listings of connectors have few attributes, so the values of a query for a connector become words to
look for and never filters. Several stages learn that a connector is asked for: from the family of
connectors, from the keyword, and from the subcategory. Others settle the subcategory only after the
values are read. `Flagged` is what all of them keep: a draft that knows a family or a subcategory of
connectors has the flag that makes its values words. So the filters of such a reading come from the
words of the query alone, `filters_of_namesConnector`.
-/

namespace PartSearch

/-- A reading that knows a family of connectors, or a subcategory that speaks of them. -/
def ParsedQuery.NamesConnector (q : ParsedQuery) : Prop :=
  q.connector.isSome = true ∨ ∃ s ∈ q.subcategory, Connector.isSubcategory s = true

instance ParsedQuery.instDecidableNamesConnector (q : ParsedQuery) : Decidable q.NamesConnector :=
  inferInstanceAs (Decidable (_ ∨ _))

/-- The filter of a word for the polarity of a transistor. -/
def Channel.typeFilter (c : Channel) : SpecFilter := ⟨"Type", .eq, c.type⟩

/-- The filter for two channels of one type. -/
def Channel.numberFilter (type : String) : SpecFilter := ⟨"Number", .eq, "2 " ++ type⟩

theorem Connector.isSome_extract {text name : String} {connector : Connector}
    (hnamed : (name, connector) ∈ names) (hfound : (pattern name).occurs text.toList = true) :
    (extract text).1.isSome = true := by
  unfold extract
  split
  · rfl
  · rename_i hnone
    have hpattern : (pattern name, connector) ∈ patterns := by
      rw [patterns, List.mem_map]
      exact ⟨(name, connector), Text.mem_longestFirst.mpr hnamed, rfl⟩
    have habsent := List.findSome?_eq_none_iff.mp hnone _ hpattern
    rw [Option.map_eq_none_iff] at habsent
    rw [Text.Pattern.occurs, habsent] at hfound
    cases hfound

theorem Connector.not_isSubcategory_of_late {s : String}
    (h : s ∈ ParsedQuery.lateSubcategories) : isSubcategory s = false := by
  have hlate : ∀ s ∈ ParsedQuery.lateSubcategories, isSubcategory s = false := by decide +kernel
  exact hlate s h

namespace Draft

variable {ν : Type}

/-! ### The flag -/

/-- A draft that knows a family or a subcategory of connectors turns its values into words. -/
def Flagged (d : Draft ν) : Prop :=
  (ParsedQuery.ofDraft d).NamesConnector → d.forConnector = true

theorem namesConnector_iff_of_keepsKind {d e : Draft ν} (h : KeepsKind d e) :
    (ParsedQuery.ofDraft e).NamesConnector ↔ (ParsedQuery.ofDraft d).NamesConnector := by
  simp only [ParsedQuery.NamesConnector, ParsedQuery.ofDraft, h.connector, h.subcategory]

theorem Flagged.of_keepsKind {d e : Draft ν} (h : Flagged d) (hkeeps : KeepsKind d e) :
    Flagged e := by
  intro hnames
  rw [hkeeps.forConnector]
  exact h ((namesConnector_iff_of_keepsKind hkeeps).mp hnames)

/-- A subcategory that is settled late does not speak of connectors. -/
theorem Flagged.of_late {d e : Draft ν} (h : Flagged d) {s : String}
    (hconnector : e.connector = d.connector) (hflag : e.forConnector = d.forConnector)
    (hsubcategory : e.subcategory = some s) (hs : s ∈ ParsedQuery.lateSubcategories) :
    Flagged e := by
  intro hnames
  rw [hflag]
  rcases hnames with hfamily | ⟨other, hother, hnamed⟩
  · refine h (Or.inl ?_)
    change d.connector.isSome = true
    rwa [← hconnector]
  · obtain rfl : s = other := Option.some.inj (hsubcategory.symm.trans hother)
    exact absurd hnamed (Bool.eq_false_iff.mp (Connector.not_isSubcategory_of_late hs))

theorem readPackage_flagged {d : Draft ν} (h : Flagged d) : Flagged d.readPackage := h

theorem readChannel_flagged {d : Draft ν} (h : Flagged d) : Flagged d.readChannel := by
  unfold readChannel
  split
  · exact h
  · exact h

theorem readConnector_flagged {d : Draft ν} (h : Flagged d) : Flagged d.readConnector := by
  unfold readConnector
  split
  · exact fun _ => rfl
  · exact h

theorem readKeyword_flagged {d : Draft ν} (h : Flagged d) : Flagged d.readKeyword := by
  unfold readKeyword
  split
  · exact fun hnames => (Bool.or_eq_true_iff ..).mpr (Or.inl (h hnames))
  · exact h

theorem withSubcategory_flagged {d : Draft ν} (h : Flagged d) (subcategory : String) :
    Flagged (d.withSubcategory subcategory) := by
  intro hnames
  refine (Bool.or_eq_true_iff ..).mpr ?_
  rcases hnames with hfamily | ⟨s, hs, hnamed⟩
  · exact Or.inl (h (Or.inl hfamily))
  · obtain rfl : subcategory = s := Option.some.inj hs
    exact Or.inr hnamed

theorem readKind_flagged {d : Draft ν} (h : Flagged d) : Flagged d.readKind := by
  have hwords : Flagged d.readChannel.readKeyword :=
    readKeyword_flagged (readChannel_flagged h)
  simp only [readKind]
  split
  · exact withSubcategory_flagged
      (hwords.of_keepsKind (redirectLeaded_keeps _ _).kind) _
  · exact hwords

theorem inferSubcategory_flagged {d : Draft ν} (h : Flagged d) : Flagged d.inferSubcategory := by
  unfold inferSubcategory
  split
  · rename_i hsuggested
    exact h.of_late rfl rfl rfl (PartKind.suggestedBy?_mem hsuggested)
  · exact h

theorem readSubcategory_flagged {d : Draft ν} (h : Flagged d) : Flagged d.readSubcategory := by
  have hinferred := inferSubcategory_flagged h
  simp only [readSubcategory]
  split
  · rename_i hfound
    exact hinferred.of_late rfl rfl rfl (PartKind.potentiometer?_mem hfound)
  · exact hinferred

theorem connector_readKind (d : Draft ν) : d.readKind.connector = d.connector := by
  have hwords : d.readChannel.readKeyword.connector = d.connector := by
    unfold readKeyword readChannel
    split <;> split <;> rfl
  simp only [readKind]
  split
  · exact (redirectLeaded_keeps _ _).kind.connector.trans hwords
  · exact hwords

theorem connector_readSubcategory (d : Draft ν) :
    d.readSubcategory.connector = d.connector := by
  have hinferred : d.inferSubcategory.connector = d.connector := by
    unfold inferSubcategory
    split <;> rfl
  simp only [readSubcategory]
  split <;> exact hinferred

/-! ### Filters from words -/

/-- What filters are made of besides values: a channel word and some phrases. -/
structure HasWords (channel : Option Channel) (phrases : List Descriptor) (d : Draft ν) :
    Prop where
  filters : d.filters = (channel.map Channel.typeFilter).toList
  channel : d.channel = channel
  descriptors : d.descriptors = phrases

theorem HasWords.of_keepsFilters {channel : Option Channel} {phrases : List Descriptor}
    {d e : Draft ν} (h : HasWords channel phrases d) (hkeeps : KeepsFilters d e) :
    HasWords channel phrases e where
  filters := hkeeps.filters.trans h.filters
  channel := hkeeps.channel.trans h.channel
  descriptors := hkeeps.descriptors.trans h.descriptors

theorem readChannel_hasWords {d : Draft ν} (h : HasWords none [] d) :
    HasWords (Channel.extract d.remaining).1 [] d.readChannel := by
  unfold readChannel
  split
  · rename_i c rest heq
    rw [heq]
    refine ⟨?_, rfl, h.descriptors⟩
    change d.filters ++ [c.typeFilter] = [c.typeFilter]
    rw [h.filters]
    rfl
  · rename_i rest heq
    rw [heq]
    exact h

theorem readKind_hasWords {d : Draft ν} (h : HasWords none [] d) :
    HasWords (Channel.extract d.remaining).1 [] d.readKind := by
  have hwords := (readChannel_hasWords h).of_keepsFilters (readKeyword_keepsFilters _)
  simp only [readKind]
  split
  · exact (hwords.of_keepsFilters (redirectLeaded_keeps _ _).filters).of_keepsFilters
      ⟨rfl, rfl, rfl⟩
  · exact hwords

theorem readDescriptors_hasWords {channel : Option Channel} {d : Draft ν}
    (h : HasWords channel [] d) :
    HasWords channel (Descriptor.extract d.remaining).1 d.readDescriptors := by
  simp only [readDescriptors]
  split
  · rename_i hnone
    rw [List.isEmpty_iff.mp hnone]
    exact h
  · refine HasWords.of_keepsFilters ?_ (foldl_note_keeps _ _).filters
    exact ⟨h.filters, h.channel, rfl⟩

theorem mem_of_mem_foldl_descriptors {f : SpecFilter} {found : List Descriptor}
    {filters : List SpecFilter} (hf : f ∈ found.foldl (fun filters p =>
      if filters.contains p.filter then filters else filters ++ [p.filter]) filters) :
    f ∈ filters ∨ ∃ p ∈ found, p.filter = f := by
  induction found generalizing filters with
  | nil => exact Or.inl hf
  | cons p found ih =>
      rw [List.foldl_cons] at hf
      rcases ih hf with hfilters | ⟨q, hq, rfl⟩
      · split at hfilters
        · exact Or.inl hfilters
        · rcases List.mem_append.mp hfilters with hold | hnew
          · exact Or.inl hold
          · exact Or.inr ⟨p, List.mem_cons_self, (List.mem_singleton.mp hnew).symm⟩
      · exact Or.inr ⟨q, List.mem_cons_of_mem _ hq, rfl⟩

/-- The filter for two channels, if there are two of a known type. -/
def dualFilters (d : Draft ν) : List SpecFilter :=
  if (d.subcategory.map PartKind.hasChannels).getD false &&
      Residue.dualWord.occurs d.remaining.toList then
    (d.channelType?.map Channel.numberFilter).toList
  else []

theorem useDual_filters (d : Draft ν) : d.useDual.filters = d.filters ++ d.dualFilters := by
  simp only [useDual, dualFilters]
  split
  · have htype : channelType? { d with
        remaining := String.ofList (Residue.dualWord.removeWords d.remaining.toList) } =
          d.channelType? := rfl
    rw [htype]
    cases d.channelType? with
    | none => exact (List.append_nil _).symm
    | some type => rfl
  · exact (List.append_nil _).symm

theorem exists_usePackageSize (d : Draft ν) :
    ∃ package findings, d.usePackageSize = { d with package, findings } := by
  unfold usePackageSize
  split
  · exact ⟨_, _, rfl⟩
  · exact ⟨d.package, d.findings, rfl⟩

/-- With the flag, the filters that are made do not depend on any value. -/
theorem makeFilters_filters {d : Draft ν} (h : d.forConnector = true) :
    d.makeFilters.filters = d.useDescriptors.filters ++ d.useDescriptors.dualFilters := by
  obtain ⟨package, findings, hsize⟩ := exists_usePackageSize d
  change d.usePackageSize.useValues.useDescriptors.useDual.useRows.filters = _
  rw [(useRows_keeps _).filters.filters, useDual_filters, hsize]
  simp only [useValues]
  rw [if_pos h]
  rfl

def withValues (d : Draft ν) (values : List (SpecValue ν)) : Draft ν := { d with values }

/-- A filter that words of a query ask for: a channel word, one of some phrases, or "dual" beside a
filter on the type. -/
inductive IsWordFilter (channel : Option Channel) (phrases : List Descriptor) (dual : Bool) :
    SpecFilter → Prop where
  | channel {c : Channel} (h : c ∈ channel) : IsWordFilter channel phrases dual c.typeFilter
  | phrase {p : Descriptor} (h : p ∈ phrases) : IsWordFilter channel phrases dual p.filter
  | dual {operator : Operator} {type : String} (hdual : dual = true)
      (htype : IsWordFilter channel phrases dual ⟨"Type", operator, type⟩)
      (hchannel : namesChannel type = true) :
      IsWordFilter channel phrases dual (Channel.numberFilter type)

section WordFilters

variable {channel : Option Channel} {phrases : List Descriptor} {d : Draft ν}

theorem isWordFilter_of_mem_useDescriptors (h : HasWords channel phrases d) (dual : Bool)
    {f : SpecFilter} (hf : f ∈ d.useDescriptors.filters) : IsWordFilter channel phrases dual f := by
  rcases mem_of_mem_foldl_descriptors hf with hold | ⟨p, hp, rfl⟩
  · rw [h.filters, Option.mem_toList, Option.map_eq_some_iff] at hold
    obtain ⟨c, hc, rfl⟩ := hold
    exact .channel hc
  · exact .phrase (h.descriptors ▸ hp)

theorem isWordFilter_of_channelType? {dual : Bool} {type : String}
    (hchannel : d.channel = channel)
    (hfilters : ∀ f ∈ d.filters, IsWordFilter channel phrases dual f)
    (htype : d.channelType? = some type) :
    namesChannel type = true ∧
      ∃ operator, IsWordFilter channel phrases dual ⟨"Type", operator, type⟩ := by
  obtain ⟨hfound, hnames⟩ := Option.filter_eq_some_iff.mp htype
  refine ⟨hnames, ?_⟩
  rw [hchannel] at hfound
  cases channel with
  | some c =>
      obtain rfl : c.type = type := Option.some.inj hfound
      exact ⟨.eq, .channel (c := c) rfl⟩
  | none =>
      obtain ⟨f, hf, rfl⟩ := Option.map_eq_some_iff.mp hfound
      have hname := List.find?_some hf
      rw [Bool.and_eq_true, beq_iff_eq] at hname
      refine ⟨f.operator, ?_⟩
      rw [← hname.1]
      exact hfilters f (List.mem_of_find?_eq_some hf)

theorem isWordFilter_of_mem_makeFilters (h : HasWords channel phrases d)
    (hflag : d.forConnector = true) {f : SpecFilter} (hf : f ∈ d.makeFilters.filters) :
    IsWordFilter channel phrases (Residue.dualWord.occurs d.remaining.toList) f := by
  rw [makeFilters_filters hflag] at hf
  rcases List.mem_append.mp hf with hwords | hdual
  · exact isWordFilter_of_mem_useDescriptors h _ hwords
  · unfold dualFilters at hdual
    split at hdual
    · rename_i hcond
      rw [Option.mem_toList, Option.map_eq_some_iff] at hdual
      obtain ⟨type, htype, rfl⟩ := hdual
      obtain ⟨hnames, operator, hfilter⟩ := isWordFilter_of_channelType? (d := d.useDescriptors)
        h.channel (fun f hf => isWordFilter_of_mem_useDescriptors h _ hf) htype
      exact .dual (Bool.and_eq_true_iff.mp hcond).2 hfilter hnames
    · exact absurd hdual List.not_mem_nil

end WordFilters

end Draft

/-! ### The whole reading -/

namespace Stage

variable {ν : Type} [Number ν]

theorem flagged_run {stage : Stage ν} (h : stage ∈ all) {d : Draft ν} (hd : d.Flagged) :
    (stage.run d).Flagged := by
  simp only [all, List.mem_cons, List.not_mem_nil, or_false] at h
  rcases h with rfl | rfl | rfl | rfl | rfl | rfl | rfl | rfl | rfl | rfl | rfl
  · exact hd.of_keepsKind d.readModel_keeps.kind
  · exact Draft.readPackage_flagged hd
  · exact hd.of_keepsKind d.readMounting_keeps.kind
  · exact Draft.readConnector_flagged hd
  · exact Draft.readKind_flagged hd
  · exact hd.of_keepsKind d.readValues_keeps.kind
  · exact Draft.readSubcategory_flagged hd
  · exact hd.of_keepsKind d.readDescriptors_keepsKind
  · exact hd.of_keepsKind d.makeFilters_keepsKind
  · exact hd.of_keepsKind ⟨rfl, rfl, rfl, rfl, rfl, rfl⟩
  · exact hd.of_keepsKind ⟨rfl, rfl, rfl, rfl, rfl, rfl⟩

theorem flagged_after (count : Nat) (query : String) : (after ν count query).Flagged := by
  refine after_of_forall_run ?_ (fun _ hstage _ => flagged_run hstage) count
  rintro (hfamily | ⟨s, hs, -⟩)
  · cases hfamily
  · cases hs

/-- The family of connectors is read once and kept. -/
theorem connector_run {stage : Stage ν} (h : stage ∈ all.drop 4) (d : Draft ν) :
    (stage.run d).connector = d.connector := by
  simp only [all, List.drop_succ_cons, List.drop_zero, List.mem_cons, List.not_mem_nil,
    or_false] at h
  rcases h with rfl | rfl | rfl | rfl | rfl | rfl | rfl
  · exact d.connector_readKind
  · exact d.readValues_keeps.kind.connector
  · exact d.connector_readSubcategory
  · exact d.readDescriptors_keepsKind.connector
  · exact d.makeFilters_keepsKind.connector
  · rfl
  · rfl

theorem connector_ofText (query : String) :
    (ParsedQuery.ofText ν query).connector =
      (Connector.extract (after ν 3 query).remaining).1 := by
  have hkept : (ParsedQuery.ofText ν query).connector = (after ν 4 query).connector := by
    change (all.foldl (fun d stage => stage.run d) (Draft.ofQuery query : Draft ν)).connector = _
    rw [← List.take_append_drop 4 all, List.foldl_append]
    exact List.foldlRecOn (motive := fun d : Draft ν => d.connector = (after ν 4 query).connector)
      (all.drop 4) (fun d stage => stage.run d) rfl
        fun d hd stage hstage => (connector_run hstage d).trans hd
  have hbefore : (after ν 3 query).connector = none := by
    have hmounting : after ν 3 query = (after ν 2 query).readMounting := after_succ rfl query
    have hpackage : after ν 2 query = (after ν 1 query).readPackage := after_succ rfl query
    have hmodel : after ν 1 query = (after ν 0 query).readModel := after_succ rfl query
    rw [hmounting, (Draft.readMounting_keeps _).kind.connector, hpackage]
    change (after ν 1 query).connector = none
    rw [hmodel, (Draft.readModel_keeps _).kind.connector]
    rfl
  have hread : after ν 4 query = (after ν 3 query).readConnector := after_succ rfl query
  rw [hkept, hread, Draft.readConnector]
  split
  · rename_i connector rest heq
    rw [heq]
  · rename_i rest heq
    rw [heq, hbefore]

/-- The stages that identify a part read nothing that filters are made of. -/
theorem keepsFilters_run {stage : Stage ν} (h : stage ∈ all.take 4) (d : Draft ν) :
    Draft.KeepsFilters d (stage.run d) := by
  simp only [all, List.take_succ_cons, List.take_zero, List.mem_cons, List.not_mem_nil,
    or_false] at h
  rcases h with rfl | rfl | rfl | rfl
  · exact d.readModel_keeps.filters
  · exact ⟨rfl, rfl, rfl⟩
  · exact d.readMounting_keeps.filters
  · exact d.readConnector_keepsFilters

/-- What filters are made of is known when they are made: the channel word that the kind of part is
read from, and the phrases that are read last. -/
theorem hasWords_after (query : String) :
    (after ν 8 query).HasWords (Channel.extract (after ν 4 query).remaining).1
      (Descriptor.extract (after ν 7 query).remaining).1 := by
  have hidentified : (after ν 4 query).HasWords none [] :=
    List.foldlRecOn (motive := Draft.HasWords none []) _ _ ⟨rfl, rfl, rfl⟩
      fun d hd stage hstage => hd.of_keepsFilters (keepsFilters_run hstage d)
  have hkind : after ν 5 query = (after ν 4 query).readKind := after_succ rfl query
  have hvalues : after ν 6 query = (after ν 5 query).readValues := after_succ rfl query
  have hsubcategory : after ν 7 query = (after ν 6 query).readSubcategory := after_succ rfl query
  have hdescriptors : after ν 8 query = (after ν 7 query).readDescriptors := after_succ rfl query
  rw [hdescriptors]
  apply Draft.readDescriptors_hasWords
  rw [hsubcategory, hvalues, hkind]
  exact ((Draft.readKind_hasWords hidentified).of_keepsFilters
    (Draft.readValues_keeps _).filters).of_keepsFilters
      (Draft.readSubcategory_keepsFilters _)

end Stage

open Stage (after)

/-- Where a connector is asked for, every filter comes from a word for a channel, from a phrase, or
from "dual", and the filters would be the same whatever values had been read. -/
theorem ParsedQuery.filters_of_namesConnector (ν : Type) [Number ν] (query : String)
    (h : (ofText ν query).NamesConnector) :
    (∀ f ∈ (ofText ν query).filters,
      Draft.IsWordFilter (Channel.extract (after ν 4 query).remaining).1
        (Descriptor.extract (after ν 7 query).remaining).1
        (Residue.dualWord.occurs (after ν 8 query).remaining.toList) f) ∧
      ∀ values, ((after ν 8 query).withValues values).makeFilters.filters =
        (ofText ν query).filters := by
  have hnames : (ofDraft (after ν 8 query)).NamesConnector :=
    (Draft.namesConnector_iff_of_keepsKind (after ν 8 query).makeFilters_keepsKind).mp h
  have hflag := Stage.flagged_after 8 query hnames
  constructor
  · intro f hf
    exact Draft.isWordFilter_of_mem_makeFilters (Stage.hasWords_after query) hflag hf
  · intro values
    have hread : (ofText ν query).filters = (after ν 8 query).makeFilters.filters := rfl
    rw [hread, Draft.makeFilters_filters hflag, Draft.makeFilters_filters]
    · rfl
    · exact hflag

def dualJstPh : String := "dual nmos jst ph 4 pin 100V"

theorem ParsedQuery.filters_of_namesConnector_dualJstPh :
    (ofText Rat dualJstPh).NamesConnector ∧
      (∀ f ∈ (ofText Rat dualJstPh).filters,
        Draft.IsWordFilter (Channel.extract (after Rat 4 dualJstPh).remaining).1
          (Descriptor.extract (after Rat 7 dualJstPh).remaining).1
          (Residue.dualWord.occurs (after Rat 8 dualJstPh).remaining.toList) f) ∧
        ∀ values, ((after Rat 8 dualJstPh).withValues values).makeFilters.filters =
          (ofText Rat dualJstPh).filters := by
  have hfamily : ("jst ph", Connector.wireToBoard "JST" "PH" 200) ∈ Connector.names :=
    List.mem_cons_self
  have hnames : (ofText Rat dualJstPh).NamesConnector := by
    refine Or.inl ?_
    rw [Stage.connector_ofText]
    exact Connector.isSome_extract hfamily (by decide +kernel)
  exact ⟨hnames, filters_of_namesConnector Rat dualJstPh hnames⟩

end PartSearch
