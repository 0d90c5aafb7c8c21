/-
**The nodes of a description and their records.**

A `NodeSection` is a section of any of the six kinds of nodes. Storing it (`NodeSection.add_does`)
stores a record that `Realizes` it: the record carries the token of the node's name, its id mappings
are stored with the tokens of the names that they go to, and everything else is as the section says.

* `nodes_names`, `addNodes_eq`: the nodes of a description, in the order in which they are named
  and stored;
* `Source.add_does`: a record with a token of its own comes in front of the records of all nodes.
-/

import FirmwareTables.Proofs.Iort.Source
import FirmwareTables.Proofs.Platform.Lots

namespace FirmwareTables

open Iort (Source NodeKind)

/-! ### Sections of nodes -/

/-- A section that becomes a node. -/
inductive NodeSection where
  /-- A group of translation services. -/
  | itsGroup (group : ItsGroupSection)
  /-- A device that the namespace names. -/
  | namedComponent (component : NamedComponentSection)
  /-- A root complex. -/
  | rootComplex (complex : RootComplexSection)
  /-- A memory management unit of the first or second version. -/
  | smmuV1V2 (smmu : SmmuV1V2Section)
  /-- A memory management unit of the third version. -/
  | smmuV3 (smmu : SmmuV3Section)
  /-- A group of performance counters. -/
  | pmcg (group : PmcgSection)

namespace NodeSection

/-- The kind of the node. -/
def kind : NodeSection → NodeKind
  | itsGroup _ => .itsGroup
  | namedComponent _ => .namedComponent
  | rootComplex _ => .rootComplex
  | smmuV1V2 _ => .smmuV1V2
  | smmuV3 _ => .smmuV3
  | pmcg _ => .pmcg

/-- The name of the node. -/
def name : NodeSection → String
  | itsGroup group => group.name
  | namedComponent component => component.name
  | rootComplex complex => complex.name
  | smmuV1V2 smmu => smmu.name
  | smmuV3 smmu => smmu.name
  | pmcg group => group.name

/-- The id mappings of the node, of which groups of translation services have none. -/
def mappings : NodeSection → List MappingSection
  | itsGroup _ => []
  | namedComponent component => component.idMappings
  | rootComplex complex => complex.idMappings
  | smmuV1V2 smmu => smmu.idMappings
  | smmuV3 smmu => smmu.idMappings
  | pmcg group => group.idMappings

/-- The name of the node that is monitored. -/
def reference? : NodeSection → Option String
  | pmcg group => some group.reference
  | _ => none

/-- Stores the node. -/
def add (tokens : NodeTokens) : NodeSection → Population Unit
  | itsGroup group => group.add tokens
  | namedComponent component => component.add tokens
  | rootComplex complex => complex.add tokens
  | smmuV1V2 smmu => smmu.add tokens
  | smmuV3 smmu => smmu.add tokens
  | pmcg group => group.add tokens

end NodeSection

namespace Platform

variable (platform : Platform)

/-- The nodes of a description, in order. -/
def nodes : List NodeSection :=
  platform.itsGroups.map .itsGroup ++ platform.namedComponents.map .namedComponent ++
    platform.rootComplexes.map .rootComplex ++ platform.smmuV1V2.map .smmuV1V2 ++
    platform.smmuV3.map .smmuV3 ++ platform.pmcgs.map .pmcg

theorem nodes_names : platform.nodes.map NodeSection.name = platform.nodeNames := by
  unfold nodes nodeNames
  simp only [List.map_append, List.map_map]
  rfl

/-- The mappings of the nodes are those of the description, in order. -/
theorem nodes_mappings :
    platform.nodes.flatMap NodeSection.mappings = platform.mappings := by
  have none : (platform.itsGroups.map NodeSection.itsGroup).flatMap NodeSection.mappings = [] :=
    List.flatMap_eq_nil_iff.mpr fun node inside => by
      obtain ⟨group, _, rfl⟩ := List.mem_map.mp inside
      rfl
  unfold nodes mappings
  simp only [List.flatMap_append, none, List.nil_append, List.flatMap_map]
  rfl

/-- The nodes that are monitored are those that counters refer to, in order. -/
theorem nodes_references :
    platform.nodes.filterMap NodeSection.reference? = platform.pmcgs.map (·.reference) := by
  have none : ∀ nodes : List NodeSection, (∀ node ∈ nodes, node.reference? = none) →
      nodes.filterMap NodeSection.reference? = [] := fun _ => List.filterMap_eq_nil_iff.mpr
  unfold nodes
  rw [List.filterMap_append, none, List.nil_append, List.filterMap_map]
  · show platform.pmcgs.filterMap (some ∘ fun group => group.reference) = _
    rw [List.filterMap_eq_map]
  · intro node inside
    simp only [List.mem_append, List.mem_map] at inside
    rcases inside with (((inside | inside) | inside) | inside) | inside <;>
      obtain ⟨section_, _, rfl⟩ := inside <;> rfl

theorem forM_append {α : Type} (action : α → Population Unit) (first second : List α) :
    (first ++ second).forM action = first.forM action >>= fun _ => second.forM action := by
  induction first with
  | nil => rfl
  | cons item first ih =>
    show (action item >>= fun _ => (first ++ second).forM action) =
      (action item >>= fun _ => first.forM action) >>= fun _ => second.forM action
    rw [ih, bind_assoc]

theorem forM_map {α β : Type} (change : α → β) (action : β → Population Unit) (items : List α) :
    (items.map change).forM action = items.forM fun item => action (change item) := by
  induction items with
  | nil => rfl
  | cons item items ih =>
    show (action (change item) >>= fun _ => (items.map change).forM action) = _
    rw [ih]
    rfl

theorem forM_congr {α : Type} {action other : α → Population Unit} {items : List α}
    (same : ∀ item ∈ items, action item = other item) : items.forM action = items.forM other := by
  induction items with
  | nil => rfl
  | cons item items ih =>
    show (action item >>= fun _ => items.forM action) = other item >>= fun _ => items.forM other
    rw [same item List.mem_cons_self, ih fun later inside =>
      same later (List.mem_cons_of_mem _ inside)]

/-- Storing the nodes is storing one after the other. -/
theorem addNodes_eq (tokens : NodeTokens) :
    platform.addNodes tokens = platform.nodes.forM (NodeSection.add tokens) := by
  unfold nodes
  simp only [forM_append, forM_map, bind_assoc]
  rfl

end Platform

/-! ### Records that realize sections -/

/-- A record is that of a mapping, with the token of the node that it goes to. -/
def MappingSection.Gives (tokens : NodeTokens) (mapping : MappingSection) (record : IdMapping) :
    Prop :=
  (mapping.output, record.outputReferenceToken) ∈ tokens ∧
    record = ⟨mapping.inputBase, mapping.numIds, mapping.outputBase, record.outputReferenceToken,
      mapping.flags⟩

/-- The records of mappings are stored. -/
def MapsTo (store : Store) (tokens : NodeTokens) (mappings : List MappingSection) (count : UInt32)
    (array : Token) : Prop :=
  ∃ records : List IdMapping,
    List.Forall₂ (MappingSection.Gives tokens) mappings records ∧
      IsStored store records count array

namespace NodeSection

/-- A record is that of a section, with the tokens of the names and its arrays stored. -/
inductive Realizes (store : Store) (tokens : NodeTokens) : NodeSection → Source → Prop where
  /-- A group of translation services. -/
  | itsGroup {group : ItsGroupSection} {token array : Token} {count : UInt32}
      (named : (group.name, token) ∈ tokens)
      (ids : IsStored store (group.itsIds.map ItsIdentifier.mk) count array) :
      Realizes store tokens (.itsGroup group) (.itsGroup ⟨token, count, array⟩)
  /-- A device that the namespace names. -/
  | namedComponent {component : NamedComponentSection} {token array : Token} {count : UInt32}
      (named : (component.name, token) ∈ tokens)
      (mappings : MapsTo store tokens component.idMappings count array) :
      Realizes store tokens (.namedComponent component) (.namedComponent ⟨token, count, array,
        component.flags, component.cacheCoherent, component.allocationHints,
        component.memoryAccessFlags, component.addressSizeLimit, component.objectName⟩)
  /-- A root complex. -/
  | rootComplex {complex : RootComplexSection} {token array : Token} {count : UInt32}
      (named : (complex.name, token) ∈ tokens)
      (mappings : MapsTo store tokens complex.idMappings count array) :
      Realizes store tokens (.rootComplex complex) (.rootComplex ⟨token, count, array,
        complex.cacheCoherent, complex.allocationHints, complex.memoryAccessFlags,
        complex.atsAttribute, complex.pciSegmentNumber, complex.memoryAddressSize⟩)
  /-- A memory management unit of the first or second version. -/
  | smmuV1V2 {smmu : SmmuV1V2Section} {token array contextArray pmuArray : Token}
      {count contextCount pmuCount : UInt32} (named : (smmu.name, token) ∈ tokens)
      (mappings : MapsTo store tokens smmu.idMappings count array)
      (context : IsStored store smmu.contextInterrupts contextCount contextArray)
      (pmu : IsStored store smmu.pmuInterrupts pmuCount pmuArray) :
      Realizes store tokens (.smmuV1V2 smmu) (.smmuV1V2 ⟨token, count, array, smmu.baseAddress,
        smmu.span, smmu.model, smmu.flags, contextCount, contextArray, pmuCount, pmuArray,
        smmu.nsgIrpt, smmu.nsgIrptFlags, smmu.nsgCfgIrpt, smmu.nsgCfgIrptFlags⟩)
  /-- A memory management unit of the third version. -/
  | smmuV3 {smmu : SmmuV3Section} {token array : Token} {count : UInt32}
      (named : (smmu.name, token) ∈ tokens)
      (mappings : MapsTo store tokens smmu.idMappings count array) :
      Realizes store tokens (.smmuV3 smmu) (.smmuV3 ⟨token, count, array, smmu.baseAddress,
        smmu.flags, smmu.vatosAddress, smmu.model, smmu.eventInterrupt, smmu.priInterrupt,
        smmu.gerrInterrupt, smmu.syncInterrupt, smmu.proximityDomain, smmu.deviceIdMappingIndex⟩)
  /-- A group of performance counters. -/
  | pmcg {group : PmcgSection} {token array reference : Token} {count : UInt32}
      (named : (group.name, token) ∈ tokens)
      (mappings : MapsTo store tokens group.idMappings count array)
      (monitored : (group.reference, reference) ∈ tokens) :
      Realizes store tokens (.pmcg group) (.pmcg ⟨token, count, array, group.baseAddress,
        group.overflowInterrupt, group.page1BaseAddress, reference⟩)

namespace Realizes

variable {store : Store} {tokens : NodeTokens} {node : NodeSection} {source : Source}

theorem kind_eq (realizes : node.Realizes store tokens source) : node.kind = source.kind := by
  cases realizes <;> rfl

theorem named (realizes : node.Realizes store tokens source) :
    (node.name, source.token) ∈ tokens := by
  cases realizes <;> assumption

theorem mapsTo (realizes : node.Realizes store tokens source) :
    MapsTo store tokens node.mappings source.mappingCount source.mappingToken := by
  cases realizes with
  | itsGroup => exact ⟨[], .nil, .none⟩
  | namedComponent _ mappings | rootComplex _ mappings | smmuV3 _ mappings => exact mappings
  | smmuV1V2 _ mappings _ _ => exact mappings
  | pmcg _ mappings _ => exact mappings

end Realizes

end NodeSection

/-! ### Storing -/

namespace NodeTokens

/-- A name that is found has the token; nothing changes. -/
theorem find_does (ids : List ObjectId) (holds : Configuration → Prop) (tokens : NodeTokens)
    (name : String) :
    Population.Does ids holds (tokens.find name)
      fun token configuration => (name, token) ∈ tokens ∧ holds configuration := by
  unfold find
  cases found : List.find? (fun entry => entry.1 == name) tokens with
  | none =>
    intro before value after done
    cases done
  | some entry =>
    have known : (name, entry.2) ∈ tokens := by
      have same : (entry.1 == name) = true :=
        @List.find?_some _ (fun entry : String × Token => entry.1 == name) _ _ found
      rw [← eq_of_beq same]
      exact List.mem_of_find?_eq_some found
    have made := Population.Does.pure ids entry.2 fun token configuration =>
      (name, token) ∈ tokens ∧ holds configuration
    exact made.weaken (fun _ here => ⟨known, here⟩) fun _ _ => id

end NodeTokens

open Population (Does)

theorem MapsTo.stable (ids : List ObjectId) (tokens : NodeTokens) (mappings : List MappingSection)
    (count : UInt32) (array : Token) :
    Stable ids fun configuration => MapsTo configuration.store tokens mappings count array :=
  fun before after grows ⟨records, related, stored⟩ => ⟨records, related,
    IsStored.stable ids (by decide) records count array before after grows stored⟩

/-- Mappings are stored with the tokens of the nodes that they go to. -/
theorem MappingSection.addAll_does (reserved : Token → Prop) (lots : List Lot)
    (tokens : NodeTokens) (mappings : List MappingSection) :
    Does arrayIds (HasLots reserved lots) (addAll tokens mappings) fun stored configuration =>
      MapsTo configuration.store tokens mappings stored.1 stored.2 ∧
        HasLots reserved (Lot.ofList (Record.objectId IdMapping) stored ++ lots) configuration := by
  unfold addAll
  refine (Does.mapM (Gives tokens) (fun mapping => ?_) mappings).bind fun records => ?_
  · refine (tokens.find_does arrayIds (HasLots reserved lots) mapping.output).bind fun output => ?_
    have made := Does.pure arrayIds
      (⟨mapping.inputBase, mapping.numIds, mapping.outputBase, output, mapping.flags⟩ : IdMapping)
      fun record configuration => mapping.Gives tokens record ∧ HasLots reserved lots configuration
    exact made.weaken (fun _ ⟨known, has⟩ => ⟨⟨known, rfl⟩, has⟩) fun _ _ => id
  · have add := (Population.addList_does reserved lots records).keep
      (.const _ (List.Forall₂ (Gives tokens) mappings records))
    have wide := add.widen (by decide : _ ⊆ arrayIds)
    exact wide.weaken (fun _ both => both.symm) fun _ _ ⟨⟨stored, has⟩, related⟩ =>
      ⟨⟨records, related, stored⟩, has⟩

/-! ### The records of nodes -/

/-- The entries of nodes. -/
def Store.nodes (store : Store) : List Entry :=
  store.entries.filter fun entry => nodeIds.contains entry.id

namespace Iort.Source

/-- The entry of the record of a node. -/
def entry : Source → Entry
  | itsGroup record => .ofRecords record.token [record]
  | namedComponent record => .ofRecords record.token [record]
  | rootComplex record => .ofRecords record.token [record]
  | smmuV1V2 record => .ofRecords record.token [record]
  | smmuV3 record => .ofRecords record.token [record]
  | pmcg record => .ofRecords record.token [record]

/-- The lots of the arrays of a node, the last stored in front. -/
def arrays : Source → List Lot
  | itsGroup record =>
    Lot.ofList (Record.objectId ItsIdentifier) (record.itsIdCount, record.itsIdToken)
  | namedComponent record =>
    Lot.ofList (Record.objectId IdMapping) (record.idMappingCount, record.idMappingToken)
  | rootComplex record =>
    Lot.ofList (Record.objectId IdMapping) (record.idMappingCount, record.idMappingToken)
  | smmuV1V2 record =>
    Lot.ofList (Record.objectId SmmuInterrupt)
        (record.pmuInterruptCount, record.pmuInterruptToken) ++
      (Lot.ofList (Record.objectId SmmuInterrupt)
          (record.contextInterruptCount, record.contextInterruptToken) ++
        Lot.ofList (Record.objectId IdMapping) (record.idMappingCount, record.idMappingToken))
  | smmuV3 record =>
    Lot.ofList (Record.objectId IdMapping) (record.idMappingCount, record.idMappingToken)
  | pmcg record =>
    Lot.ofList (Record.objectId IdMapping) (record.idMappingCount, record.idMappingToken)

/-- The lots of a node. -/
def lots (source : Source) : List Lot := source.entry.lot :: source.arrays

/-- Stores the record of a node. -/
def add : Source → Population Unit
  | itsGroup record => Population.addRecord record.token record
  | namedComponent record => Population.addRecord record.token record
  | rootComplex record => Population.addRecord record.token record
  | smmuV1V2 record => Population.addRecord record.token record
  | smmuV3 record => Population.addRecord record.token record
  | pmcg record => Population.addRecord record.token record

@[simp] theorem token_entry (source : Source) : source.entry.token = source.token := by
  cases source <;> rfl

end Iort.Source

theorem Population.addNode_does {α : Type} [Record α] (node : Record.objectId α ∈ nodeIds)
    (token : Token) (record : α) (known : List Entry) :
    Does nodeIds
      (fun configuration => configuration.HasIssued token ∧ token.isNull = false ∧
        configuration.store.nodes = known ∧ ∀ entry ∈ known, entry.token ≠ token)
      (addRecord token record)
      fun _ configuration => configuration.store.nodes = .ofRecords token [record] :: known := by
  intro before value after done
  obtain ⟨result, rfl⟩ := @addRecords_eq_ok _ _ token [record] before after value done
  refine ⟨Nat.le_refl _, fun _ _ ⟨issued, named, same, unused⟩ => ⟨?_, ?_⟩⟩
  · have grows := grows_of_rewrites (Store.rewrites_addObjects token [record] _) (.inr issued)
      fun array => ?_
    · exact grows.widen (List.cons_subset.mpr ⟨node, List.nil_subset _⟩)
    · exact absurd array ((by decide : ∀ id ∈ nodeIds, id ∉ arrayIds) _ node)
  · have absent : ∀ entry ∈ before.store.entries,
        entry.isAt (Record.objectId α) token = false := by
      intro entry inside
      refine Bool.eq_false_iff.mpr fun here => ?_
      obtain ⟨object, place⟩ := Bool.and_eq_true_iff.mp here
      refine unused entry ?_ (eq_of_beq place)
      rw [← same]
      refine List.mem_filter.mpr ⟨inside, ?_⟩
      rw [eq_of_beq object]
      exact List.contains_iff_mem.mpr node
    show List.filter _ (Access.live.addObjects token [record] before.store).store.entries = _
    rw [Store.entries_addObjects absent named result, List.filter_cons]
    have kept : nodeIds.contains (Entry.ofRecords token [record]).id = true :=
      List.contains_iff_mem.mpr node
    rw [if_pos kept]
    exact congrArg _ same

/-- **A record with a token of its own** comes in front of the records of all nodes. -/
theorem Iort.Source.add_does (source : Source) (known : List Entry) :
    Does nodeIds
      (fun configuration => configuration.HasIssued source.token ∧ source.token.isNull = false ∧
        configuration.store.nodes = known ∧ ∀ entry ∈ known, entry.token ≠ source.token)
      source.add
      fun _ configuration => configuration.store.nodes = source.entry :: known := by
  cases source <;> exact Population.addNode_does (by decide) _ _ known

/-- The record of a node is one lot more. -/
theorem Iort.Source.add_yields (reserved : Token → Prop) (lots : List Lot) (source : Source) :
    Population.Yields
      (fun configuration => (source.token.isNull = false ∧
        ∀ entry ∈ configuration.store.entries, entry.token ≠ source.token) ∧
        HasLots reserved lots configuration)
      source.add fun _ => HasLots reserved (source.entry.lot :: lots) := by
  intro before value after done small issued ⟨⟨named, unused⟩, has⟩
  cases source <;>
    exact Population.addNew_yields reserved lots _ _ [] before value after done small issued
      ⟨⟨named, unused, fun _ => by decide⟩, has⟩

namespace NodeSection

variable {tokens : NodeTokens} {reserved : Token → Prop} {lots : List Lot}
  {holds : Configuration → Prop} {post : Unit → Configuration → Prop}

/-- Most nodes start with the token of their name and their id mappings. -/
theorem addMapped_does {name : String} {mappings : List MappingSection}
    {next : Token → UInt32 × Token → Population Unit} (stable : Stable arrayIds holds)
    (rest : ∀ token count array, Does (arrayIds ++ nodeIds)
      (fun configuration => MapsTo configuration.store tokens mappings count array ∧
        (name, token) ∈ tokens ∧ holds configuration ∧
          HasLots reserved (Lot.ofList (Record.objectId IdMapping) (count, array) ++ lots)
            configuration)
      (next token (count, array)) post) :
    Does (arrayIds ++ nodeIds)
      (fun configuration => holds configuration ∧ HasLots reserved lots configuration)
      (tokens.find name >>= fun token => MappingSection.addAll tokens mappings >>= next token)
      post := by
  have within : arrayIds ⊆ arrayIds ++ nodeIds := List.subset_append_left _ _
  refine (tokens.find_does _ _ name).bind fun token => ?_
  have kept := (Stable.const arrayIds ((name, token) ∈ tokens)).and stable
  have add := ((MappingSection.addAll_does reserved lots tokens mappings).keep kept).widen within
  refine (add.weaken (fun _ ⟨named, here, has⟩ => ⟨has, named, here⟩) fun _ _ => id).bind
    fun stored => ?_
  exact (rest token stored.1 stored.2).weaken
    (fun _ ⟨⟨maps, has⟩, named, here⟩ => ⟨maps, named, here, has⟩) fun _ _ => id

/-- A list of a node is stored, and what is known of the node before stays. -/
theorem addArray_does {α : Type} [Record α] (array : Record.objectId α ∈ arrayIds)
    {next : UInt32 × Token → Population Unit} {records : List α} (stable : Stable arrayIds holds)
    (rest : ∀ count array, Does (arrayIds ++ nodeIds)
      (fun configuration => IsStored configuration.store records count array ∧
        holds configuration ∧
          HasLots reserved (Lot.ofList (Record.objectId α) (count, array) ++ lots) configuration)
      (next (count, array)) post) :
    Does (arrayIds ++ nodeIds)
      (fun configuration => holds configuration ∧ HasLots reserved lots configuration)
      (Population.addList records >>= next) post := by
  have add := (Population.addList_does reserved lots records).widen
    (List.cons_subset.mpr ⟨array, List.nil_subset arrayIds⟩)
  have wide := (add.keep stable).widen (List.subset_append_left arrayIds nodeIds)
  refine (wide.weaken (fun _ both => both.symm) fun _ _ => id).bind fun stored => ?_
  exact (rest stored.1 stored.2).weaken
    (fun _ ⟨⟨stored, has⟩, here⟩ => ⟨stored, here, has⟩) fun _ _ => id

/-- **Storing a section** is storing a record that realizes it, and its arrays before. -/
theorem add_does (node : NodeSection) (stable : Stable arrayIds holds)
    (last : ∀ source, Does (arrayIds ++ nodeIds)
      (fun configuration => node.Realizes configuration.store tokens source ∧
        holds configuration ∧ HasLots reserved (source.arrays ++ lots) configuration)
      source.add post) :
    Does (arrayIds ++ nodeIds)
      (fun configuration => holds configuration ∧ HasLots reserved lots configuration)
      (node.add tokens) post := by
  cases node with
  | itsGroup group =>
    unfold add ItsGroupSection.add
    refine (tokens.find_does _ _ group.name).bind fun token => ?_
    have kept := (Stable.const arrayIds ((group.name, token) ∈ tokens)).and stable
    refine (addArray_does (by decide) kept fun count array => ?_).weaken
      (fun _ ⟨named, here, has⟩ => ⟨⟨named, here⟩, has⟩) fun _ _ => id
    exact (last (.itsGroup ⟨token, count, array⟩)).weaken
      (fun _ ⟨stored, ⟨named, here⟩, has⟩ => ⟨.itsGroup named stored, here, has⟩) fun _ _ => id
  | namedComponent component =>
    unfold add NamedComponentSection.add
    refine addMapped_does stable fun token count array => ?_
    exact (last (.namedComponent ⟨token, count, array, component.flags, component.cacheCoherent,
      component.allocationHints, component.memoryAccessFlags, component.addressSizeLimit,
      component.objectName⟩)).weaken
      (fun _ ⟨stored, named, rest⟩ => ⟨.namedComponent named stored, rest⟩) fun _ _ => id
  | rootComplex complex =>
    unfold add RootComplexSection.add
    refine addMapped_does stable fun token count array => ?_
    exact (last (.rootComplex ⟨token, count, array, complex.cacheCoherent,
      complex.allocationHints, complex.memoryAccessFlags, complex.atsAttribute,
      complex.pciSegmentNumber, complex.memoryAddressSize⟩)).weaken
      (fun _ ⟨stored, named, rest⟩ => ⟨.rootComplex named stored, rest⟩) fun _ _ => id
  | smmuV1V2 smmu =>
    unfold add SmmuV1V2Section.add
    refine addMapped_does stable fun token count array => ?_
    have kept := (MapsTo.stable arrayIds tokens smmu.idMappings count array).and
      ((Stable.const arrayIds ((smmu.name, token) ∈ tokens)).and stable)
    refine (addArray_does (by decide) kept fun contextCount contextArray => ?_).weaken
      (fun _ ⟨stored, named, here, has⟩ => ⟨⟨stored, named, here⟩, has⟩) fun _ _ => id
    have keptContexts := (IsStored.stable arrayIds (by decide) smmu.contextInterrupts contextCount
      contextArray).and kept
    refine (addArray_does (by decide) keptContexts fun pmuCount pmuArray => ?_).weaken
      (fun _ ⟨context, here, has⟩ => ⟨⟨context, here⟩, has⟩) fun _ _ => id
    refine (last (.smmuV1V2 ⟨token, count, array, smmu.baseAddress, smmu.span, smmu.model,
      smmu.flags, contextCount, contextArray, pmuCount, pmuArray, smmu.nsgIrpt, smmu.nsgIrptFlags,
      smmu.nsgCfgIrpt, smmu.nsgCfgIrptFlags⟩)).weaken ?_ fun _ _ => id
    intro configuration ⟨pmu, ⟨context, stored, named, here⟩, has⟩
    refine ⟨.smmuV1V2 named stored context pmu, here, ?_⟩
    unfold Source.arrays
    rw [List.append_assoc, List.append_assoc]
    exact has
  | smmuV3 smmu =>
    unfold add SmmuV3Section.add
    refine addMapped_does stable fun token count array => ?_
    exact (last (.smmuV3 ⟨token, count, array, smmu.baseAddress, smmu.flags,
      smmu.vatosAddress, smmu.model, smmu.eventInterrupt, smmu.priInterrupt, smmu.gerrInterrupt,
      smmu.syncInterrupt, smmu.proximityDomain, smmu.deviceIdMappingIndex⟩)).weaken
      (fun _ ⟨stored, named, rest⟩ => ⟨.smmuV3 named stored, rest⟩) fun _ _ => id
  | pmcg group =>
    unfold add PmcgSection.add
    refine addMapped_does stable fun token count array => ?_
    refine (tokens.find_does _ _ group.reference).bind fun reference => ?_
    exact (last (.pmcg ⟨token, count, array, group.baseAddress, group.overflowInterrupt,
      group.page1BaseAddress, reference⟩)).weaken
      (fun _ ⟨monitored, stored, named, rest⟩ => ⟨.pmcg named stored monitored, rest⟩)
      fun _ _ => id

end NodeSection

end FirmwareTables
