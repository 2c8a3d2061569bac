import Mathlib.Tactic.SplitIfs
import PartSearch.Query.Parsed

/-!
# What a stage leaves alone

Some of what a draft knows tells the kind of part, and some of it is what filters are made of. Most
stages touch neither, `Keeps`; the others touch one of them only. What a reading says about the kind
of part therefore comes from a few stages, and it names no subcategory but those of the tables of
words, `mem_subcategoryNames`.
-/

namespace PartSearch

/-! ### Names of subcategories -/

theorem Text.mem_longestFirst {α : Type} {table : List (String × α)} {entry : String × α} :
    entry ∈ longestFirst table ↔ entry ∈ table := List.mem_mergeSort

namespace ParsedQuery

/-- Subcategories that may be settled once the values are read. -/
def lateSubcategories : List String :=
  [PartKind.chipResistors, PartKind.ceramicCapacitors, "potentiometers, variable resistors"]

/-- Subcategories that packages, wordings and quantities lead to. -/
def impliedSubcategories : List String :=
  "usb connectors" :: "aluminum electrolytic capacitors - leaded" :: lateSubcategories

/-- The subcategories that a reading may name. -/
def subcategoryNames : List String :=
  partKeywords.map (·.2) ++ Channel.patterns.map (·.2.subcategory) ++
    Connector.names.map (·.2.subcategory) ++ impliedSubcategories

theorem mem_subcategoryNames_of_implied {s : String} (h : s ∈ impliedSubcategories) :
    s ∈ subcategoryNames := List.mem_append_right _ h

theorem mem_subcategoryNames_of_late {s : String} (h : s ∈ lateSubcategories) :
    s ∈ subcategoryNames :=
  mem_subcategoryNames_of_implied (List.mem_cons_of_mem _ (List.mem_cons_of_mem _ h))

end ParsedQuery

open ParsedQuery (lateSubcategories subcategoryNames mem_subcategoryNames_of_implied
  mem_subcategoryNames_of_late)

theorem PackageHit.suggested_extract {text s : String} (h : (extract text).1.suggested = some s) :
    s ∈ subcategoryNames := by
  simp only [extract] at h
  split at h
  · rename_i meaning m _
    cases meaning with
    | receptacle =>
        cases h
        exact mem_subcategoryNames_of_implied List.mem_cons_self
    | designator => cases h
    | diodeOutline => cases h
    | diodeCode => cases h
  · cases h

theorem Connector.subcategory_extract {text : String} {connector : Connector}
    (h : (extract text).1 = some connector) : connector.subcategory ∈ subcategoryNames := by
  have hnamed : connector ∈ names.map (·.2) := by
    unfold extract at h
    split at h
    · rename_i found m hm
      obtain rfl := Option.some.inj h
      obtain ⟨⟨p, other⟩, hpattern, hfound⟩ := List.exists_of_findSome?_eq_some hm
      obtain ⟨occurrence, -, heq⟩ := Option.map_eq_some_iff.mp hfound
      obtain ⟨rfl, rfl⟩ := Prod.mk.inj heq
      obtain ⟨entry, hentry, heq⟩ := List.mem_map.mp hpattern
      obtain ⟨rfl, rfl⟩ := Prod.mk.inj heq
      exact List.mem_map.mpr ⟨entry, Text.mem_longestFirst.mp hentry, rfl⟩
    · cases h
  obtain ⟨entry, hentry, rfl⟩ := List.mem_map.mp hnamed
  exact List.mem_append_left _ (List.mem_append_right _ (List.mem_map.mpr ⟨entry, hentry, rfl⟩))

theorem Channel.subcategory_extract {text : String} {channel : Channel}
    (h : (extract text).1 = some channel) : channel.subcategory ∈ subcategoryNames := by
  unfold extract at h
  split at h
  · rename_i p found hfound
    obtain rfl := Option.some.inj h
    have hmem := List.mem_of_find?_eq_some hfound
    exact List.mem_append_left _ (List.mem_append_left _ (List.mem_append_right _
      (List.mem_map.mpr ⟨_, hmem, rfl⟩)))
  · cases h

theorem Keyword.subcategory_extract {text : String} {keyword : Keyword}
    (h : (extract text).1 = some keyword) : keyword.subcategory ∈ subcategoryNames := by
  have hword : keyword ∈ all := by
    simp only [extract] at h
    split at h
    · rename_i k hk
      obtain rfl := Option.some.inj h
      exact List.mem_of_find?_eq_some hk
    · cases h
  obtain ⟨entry, hentry, rfl⟩ := List.mem_map.mp hword
  exact List.mem_append_left _ (List.mem_append_left _ (List.mem_append_left _
    (List.mem_map.mpr ⟨entry, Text.mem_longestFirst.mp hentry, rfl⟩)))

namespace PartKind

theorem leadedElectrolytic?_mem {subcategory text : String} {mounting : Option Mounting}
    {found : String × String} (h : leadedElectrolytic? subcategory text mounting = some found) :
    found.1 ∈ subcategoryNames := by
  have hname : "aluminum electrolytic capacitors - leaded" ∈ subcategoryNames :=
    mem_subcategoryNames_of_implied (List.mem_cons_of_mem _ List.mem_cons_self)
  unfold leadedElectrolytic? at h
  split_ifs at h
  · cases h
    exact hname
  · cases h
    exact hname

theorem suggestedBy?_mem {quantities : List Quantity} {s : String}
    (h : suggestedBy? quantities = some s) : s ∈ lateSubcategories := by
  unfold suggestedBy? at h
  split_ifs at h
  · cases h
    exact List.mem_cons_self
  · cases h
    exact List.mem_cons_of_mem _ List.mem_cons_self

theorem potentiometer?_mem {subcategory : Option String} {text : String}
    {found : String × String} (h : potentiometer? subcategory text = some found) :
    found.1 ∈ lateSubcategories := by
  unfold potentiometer? at h
  split_ifs at h
  cases h
  exact List.mem_cons_of_mem _ (List.mem_cons_of_mem _ List.mem_cons_self)

end PartKind

namespace Draft

variable {ν : Type}

/-! ### What a stage leaves alone -/

/-- Nothing that filters are made of has changed, other than values. -/
structure KeepsFilters (d e : Draft ν) : Prop where
  filters : e.filters = d.filters
  channel : e.channel = d.channel
  descriptors : e.descriptors = d.descriptors

/-- Nothing that tells the kind of part has changed. -/
structure KeepsKind (d e : Draft ν) : Prop where
  suggested : e.suggested = d.suggested
  connector : e.connector = d.connector
  channel : e.channel = d.channel
  keyword : e.keyword = d.keyword
  subcategory : e.subcategory = d.subcategory
  forConnector : e.forConnector = d.forConnector

structure Keeps (d e : Draft ν) : Prop where
  filters : KeepsFilters d e
  kind : KeepsKind d e

theorem KeepsFilters.refl (d : Draft ν) : KeepsFilters d d := ⟨rfl, rfl, rfl⟩

theorem KeepsKind.refl (d : Draft ν) : KeepsKind d d := ⟨rfl, rfl, rfl, rfl, rfl, rfl⟩

theorem Keeps.refl (d : Draft ν) : Keeps d d := ⟨.refl d, .refl d⟩

theorem KeepsFilters.trans {c d e : Draft ν} (hcd : KeepsFilters c d) (hde : KeepsFilters d e) :
    KeepsFilters c e where
  filters := hde.filters.trans hcd.filters
  channel := hde.channel.trans hcd.channel
  descriptors := hde.descriptors.trans hcd.descriptors

theorem KeepsKind.trans {c d e : Draft ν} (hcd : KeepsKind c d) (hde : KeepsKind d e) :
    KeepsKind c e where
  suggested := hde.suggested.trans hcd.suggested
  connector := hde.connector.trans hcd.connector
  channel := hde.channel.trans hcd.channel
  keyword := hde.keyword.trans hcd.keyword
  subcategory := hde.subcategory.trans hcd.subcategory
  forConnector := hde.forConnector.trans hcd.forConnector

theorem Keeps.trans {c d e : Draft ν} (hcd : Keeps c d) (hde : Keeps d e) : Keeps c e :=
  ⟨hcd.filters.trans hde.filters, hcd.kind.trans hde.kind⟩

theorem readModel_keeps (d : Draft ν) : Keeps d d.readModel := by
  unfold readModel
  split
  · exact ⟨⟨rfl, rfl, rfl⟩, ⟨rfl, rfl, rfl, rfl, rfl, rfl⟩⟩
  · exact .refl d

theorem readMounting_keeps (d : Draft ν) : Keeps d d.readMounting := by
  unfold readMounting
  split
  · exact ⟨⟨rfl, rfl, rfl⟩, ⟨rfl, rfl, rfl, rfl, rfl, rfl⟩⟩
  · exact .refl d

theorem readConnector_keepsFilters (d : Draft ν) : KeepsFilters d d.readConnector := by
  unfold readConnector
  split
  · exact ⟨rfl, rfl, rfl⟩
  · exact .refl d

theorem readKeyword_keepsFilters (d : Draft ν) : KeepsFilters d d.readKeyword := by
  unfold readKeyword
  split
  · exact ⟨rfl, rfl, rfl⟩
  · exact .refl d

theorem redirectLeaded_keeps (d : Draft ν) (subcategory : String) :
    Keeps d (d.redirectLeaded subcategory).1 := by
  unfold redirectLeaded
  split
  · exact ⟨⟨rfl, rfl, rfl⟩, ⟨rfl, rfl, rfl, rfl, rfl, rfl⟩⟩
  · exact .refl d

theorem readSubcategory_keepsFilters (d : Draft ν) : KeepsFilters d d.readSubcategory := by
  have hinferred : KeepsFilters d d.inferSubcategory := by
    unfold inferSubcategory
    split
    · exact ⟨rfl, rfl, rfl⟩
    · exact .refl d
  refine hinferred.trans ?_
  simp only [readSubcategory]
  split
  · exact ⟨rfl, rfl, rfl⟩
  · exact .refl _

theorem foldl_note_keeps (found : List Descriptor) (d : Draft ν) :
    Keeps d (found.foldl (fun d f => d.note f.phrase) d) := by
  induction found generalizing d with
  | nil => exact .refl d
  | cons f found ih =>
      refine Keeps.trans ?_ (ih (d.note f.phrase))
      exact ⟨⟨rfl, rfl, rfl⟩, ⟨rfl, rfl, rfl, rfl, rfl, rfl⟩⟩

theorem readDescriptors_keepsKind (d : Draft ν) : KeepsKind d d.readDescriptors := by
  simp only [readDescriptors]
  split
  · exact .refl d
  · refine KeepsKind.trans ?_ (foldl_note_keeps _ _).kind
    exact ⟨rfl, rfl, rfl, rfl, rfl, rfl⟩

theorem usePackageSize_keepsKind (d : Draft ν) : KeepsKind d d.usePackageSize := by
  unfold usePackageSize
  split
  · exact ⟨rfl, rfl, rfl, rfl, rfl, rfl⟩
  · exact .refl d

theorem useValues_keepsKind (d : Draft ν) : KeepsKind d d.useValues := by
  simp only [useValues]
  split
  · exact ⟨rfl, rfl, rfl, rfl, rfl, rfl⟩
  · exact ⟨rfl, rfl, rfl, rfl, rfl, rfl⟩

theorem useDescriptors_keepsKind (d : Draft ν) : KeepsKind d d.useDescriptors :=
  ⟨rfl, rfl, rfl, rfl, rfl, rfl⟩

theorem useDual_keepsKind (d : Draft ν) : KeepsKind d d.useDual := by
  simp only [useDual]
  split
  · split
    · exact ⟨rfl, rfl, rfl, rfl, rfl, rfl⟩
    · exact ⟨rfl, rfl, rfl, rfl, rfl, rfl⟩
  · exact .refl d

theorem useRows_keeps (d : Draft ν) : Keeps d d.useRows := by
  unfold useRows
  split
  · exact ⟨⟨rfl, rfl, rfl⟩, ⟨rfl, rfl, rfl, rfl, rfl, rfl⟩⟩
  · exact .refl d

theorem makeFilters_keepsKind (d : Draft ν) : KeepsKind d d.makeFilters :=
  d.usePackageSize_keepsKind.trans <| (useValues_keepsKind _).trans <|
    (useDescriptors_keepsKind _).trans <| (useDual_keepsKind _).trans (useRows_keeps _).kind

theorem readValues_keeps [Number ν] (d : Draft ν) : Keeps d d.readValues := by
  have himpedance (d : Draft ν) : Keeps d d.readImpedance := by
    simp only [readImpedance]
    split
    · split
      · exact ⟨⟨rfl, rfl, rfl⟩, ⟨rfl, rfl, rfl, rfl, rfl, rfl⟩⟩
      · exact ⟨⟨rfl, rfl, rfl⟩, ⟨rfl, rfl, rfl, rfl, rfl, rfl⟩⟩
    · exact .refl d
  have hpins (d : Draft ν) : Keeps d d.readBarePins := by
    unfold readBarePins
    split
    · split
      · exact ⟨⟨rfl, rfl, rfl⟩, ⟨rfl, rfl, rfl, rfl, rfl, rfl⟩⟩
      · exact .refl d
    · exact .refl d
  have hunits : Keeps d d.readUnits := ⟨⟨rfl, rfl, rfl⟩, ⟨rfl, rfl, rfl, rfl, rfl, rfl⟩⟩
  have hvalues : Keeps d d.readUnits.readImpedance.readBarePins :=
    hunits.trans ((himpedance _).trans (hpins _))
  exact hvalues.trans ⟨⟨rfl, rfl, rfl⟩, ⟨rfl, rfl, rfl, rfl, rfl, rfl⟩⟩

/-! ### The kind of part -/

/-- Everything that tells the kind of part names a subcategory of the tables. -/
structure KnowsNames (d : Draft ν) : Prop where
  suggested : ∀ s ∈ d.suggested, s ∈ subcategoryNames
  connector : ∀ c ∈ d.connector, c.subcategory ∈ subcategoryNames
  channel : ∀ c ∈ d.channel, c.subcategory ∈ subcategoryNames
  keyword : ∀ k ∈ d.keyword, k.subcategory ∈ subcategoryNames
  subcategory : ∀ s ∈ d.subcategory, s ∈ subcategoryNames

theorem KnowsNames.of_keepsKind {d e : Draft ν} (h : KnowsNames d) (hkeeps : KeepsKind d e) :
    KnowsNames e where
  suggested := hkeeps.suggested ▸ h.suggested
  connector := hkeeps.connector ▸ h.connector
  channel := hkeeps.channel ▸ h.channel
  keyword := hkeeps.keyword ▸ h.keyword
  subcategory := hkeeps.subcategory ▸ h.subcategory

theorem KnowsNames.readPackage {d : Draft ν} (h : KnowsNames d) : KnowsNames d.readPackage :=
  { h with suggested := fun _ hs => PackageHit.suggested_extract hs }

theorem KnowsNames.readConnector {d : Draft ν} (h : KnowsNames d) :
    KnowsNames d.readConnector := by
  unfold Draft.readConnector
  split
  · rename_i connector rest heq
    refine { h with connector := fun c hc => ?_ }
    obtain rfl := Option.some.inj hc
    exact Connector.subcategory_extract (congrArg Prod.fst heq)
  · exact h

theorem KnowsNames.readChannel {d : Draft ν} (h : KnowsNames d) : KnowsNames d.readChannel := by
  unfold Draft.readChannel
  split
  · rename_i channel rest heq
    refine { h with channel := fun c hc => ?_ }
    obtain rfl := Option.some.inj hc
    exact Channel.subcategory_extract (congrArg Prod.fst heq)
  · exact h

theorem KnowsNames.readKeyword {d : Draft ν} (h : KnowsNames d) : KnowsNames d.readKeyword := by
  unfold Draft.readKeyword
  split
  · rename_i keyword rest heq
    refine { h with keyword := fun k hk => ?_ }
    obtain rfl := Option.some.inj hk
    exact Keyword.subcategory_extract (congrArg Prod.fst heq)
  · exact h

theorem KnowsNames.namedSubcategory {d : Draft ν} (h : KnowsNames d) {s : String}
    (hs : d.namedSubcategory = some s) : s ∈ subcategoryNames := by
  unfold Draft.namedSubcategory at hs
  cases hkeyword : d.keyword with
  | some k =>
      rw [hkeyword] at hs
      exact Option.some.inj hs ▸ h.keyword k hkeyword
  | none =>
      cases hchannel : d.channel with
      | some c =>
          rw [hkeyword, hchannel] at hs
          exact Option.some.inj hs ▸ h.channel c hchannel
      | none =>
          cases hconnector : d.connector with
          | some c =>
              rw [hkeyword, hchannel, hconnector] at hs
              exact Option.some.inj hs ▸ h.connector c hconnector
          | none =>
              rw [hkeyword, hchannel, hconnector] at hs
              exact h.suggested s hs

theorem redirectLeaded_mem {d : Draft ν} {s : String} (hs : s ∈ subcategoryNames) :
    (d.redirectLeaded s).2 ∈ subcategoryNames := by
  unfold redirectLeaded
  split
  · rename_i found
    exact PartKind.leadedElectrolytic?_mem found
  · exact hs

theorem KnowsNames.readKind {d : Draft ν} (h : KnowsNames d) : KnowsNames d.readKind := by
  have hwords := h.readChannel.readKeyword
  simp only [Draft.readKind]
  split
  · rename_i s hs
    have hkept := hwords.of_keepsKind (redirectLeaded_keeps _ s).kind
    refine { hkept with subcategory := fun other hother => ?_ }
    obtain rfl := Option.some.inj hother
    exact redirectLeaded_mem (hwords.namedSubcategory hs)
  · exact hwords

theorem KnowsNames.inferSubcategory {d : Draft ν} (h : KnowsNames d) :
    KnowsNames d.inferSubcategory := by
  unfold Draft.inferSubcategory
  split
  · rename_i hsuggested
    refine { h with subcategory := fun s hs => ?_ }
    obtain rfl := Option.some.inj hs
    exact mem_subcategoryNames_of_late (PartKind.suggestedBy?_mem hsuggested)
  · exact h

theorem KnowsNames.readSubcategory {d : Draft ν} (h : KnowsNames d) :
    KnowsNames d.readSubcategory := by
  simp only [Draft.readSubcategory]
  split
  · rename_i hfound
    refine { h.inferSubcategory with subcategory := fun s hs => ?_ }
    obtain rfl := Option.some.inj hs
    exact mem_subcategoryNames_of_late (PartKind.potentiometer?_mem hfound)
  · exact h.inferSubcategory

end Draft

/-! ### The whole reading -/

namespace Stage

variable {ν : Type} [Number ν]

/-- What the first `count` stages make of a query. -/
def after (ν : Type) [Number ν] (count : Nat) (query : String) : Draft ν :=
  (all.take count).foldl (fun d stage => stage.run d) (.ofQuery query)

theorem after_succ {count : Nat} {name : String} {run : Draft ν → Draft ν}
    (h : all[count]? = some ⟨name, run⟩) (query : String) :
    after ν (count + 1) query = run (after ν count query) := by
  rw [after, List.take_add_one, h, Option.toList_some, List.foldl_append]
  rfl

/-- What the query has and every stage keeps, any draft of a reading has. -/
theorem after_of_forall_run {P : Draft ν → Prop} {query : String} (hquery : P (.ofQuery query))
    (hrun : ∀ stage ∈ all, ∀ d, P d → P (stage.run d)) (count : Nat) :
    P (after ν count query) :=
  List.foldlRecOn (motive := P) _ _ hquery
    fun d hd stage hstage => hrun stage (List.mem_of_mem_take hstage) d hd

theorem knowsNames_run {stage : Stage ν} (h : stage ∈ all) {d : Draft ν} (hd : d.KnowsNames) :
    (stage.run d).KnowsNames := by
  simp only [all, List.mem_cons, List.not_mem_nil, or_false] at h
  rcases h with rfl | rfl | rfl | rfl | rfl | rfl | rfl | rfl | rfl | rfl | rfl
  · exact hd.of_keepsKind d.readModel_keeps.kind
  · exact hd.readPackage
  · exact hd.of_keepsKind d.readMounting_keeps.kind
  · exact hd.readConnector
  · exact hd.readKind
  · exact hd.of_keepsKind d.readValues_keeps.kind
  · exact hd.readSubcategory
  · exact hd.of_keepsKind d.readDescriptors_keepsKind
  · exact hd.of_keepsKind d.makeFilters_keepsKind
  · exact hd.of_keepsKind ⟨rfl, rfl, rfl, rfl, rfl, rfl⟩
  · exact hd.of_keepsKind ⟨rfl, rfl, rfl, rfl, rfl, rfl⟩

/-- A reading names no subcategory but those of the tables. -/
theorem mem_subcategoryNames {query s : String}
    (h : (ParsedQuery.ofText ν query).subcategory = some s) : s ∈ subcategoryNames := by
  have hquery : (Draft.ofQuery query : Draft ν).KnowsNames := by
    constructor <;> intro _ hnone <;> cases hnone
  exact (after_of_forall_run hquery (fun _ hstage _ => knowsNames_run hstage) 11).subcategory s h

end Stage

end PartSearch
