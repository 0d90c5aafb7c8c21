/-
**What a population is going to store.**

Which records a population adds, and under which tokens, depends on the description and on how many
tokens were issued before, but not on the store. A `Draft` says it beforehand: the deposits that are
going to be made, the number of tokens issued in the end, and a value. A population `Follows` a
draft if on every store it makes the deposits one after the other, and fails only with the error of
the first that is refused.

* `Follows.bind`, `Follows.forM`: drafts follow each other as populations do;
* `Platform.deposits`: everything that a consistent description is going to add, record by record.
-/

import FirmwareTables.Proofs.Platform.Configured
import FirmwareTables.Proofs.Repository.Deposits

namespace FirmwareTables

open Iort (Source)

/-! ### Drafts -/

/-- What a population is going to do, as far as nothing is refused. -/
structure Draft (α : Type) where
  /-- What it gives in the end. -/
  value : α
  /-- How many tokens are issued then. -/
  issued : Nat
  /-- The records that are added, in order. -/
  deposits : List Deposit

namespace Draft

variable {α β : Type} {ι : Type _}

/-- A list of a node: its length and its token, the null token if the list is empty. -/
def ofList [Record α] (issued : Nat) (records : List α) : Draft (UInt32 × Token) :=
  if records.isEmpty then ⟨(0, .null), issued, []⟩
  else ⟨(UInt32.ofNat records.length, .next issued), issued + 1,
    records.map (Deposit.ofRecord (.next issued))⟩

/-- Something else made of the value. -/
def map (change : α → β) (draft : Draft α) : Draft β :=
  ⟨change draft.value, draft.issued, draft.deposits⟩

/-- Deposits for some items, each with the tokens that come after those of the items before. -/
def inOrder (draft : Nat → ι → Draft Unit) : Nat → List ι → Draft Unit
  | issued, [] => ⟨(), issued, []⟩
  | issued, item :: items =>
    let first := draft issued item
    let rest := inOrder draft first.issued items
    ⟨(), rest.issued, first.deposits ++ rest.deposits⟩

end Draft

/-! ### Sections -/

/-- The token that is found for a name, if one is. -/
def NodeTokens.tokenOf (tokens : NodeTokens) (name : String) : Token :=
  ((List.find? (fun entry => entry.1 == name) tokens).map Prod.snd).getD .null

/-- The record of a mapping. -/
def MappingSection.record (tokens : NodeTokens) (mapping : MappingSection) : IdMapping :=
  ⟨mapping.inputBase, mapping.numIds, mapping.outputBase, tokens.tokenOf mapping.output,
    mapping.flags⟩

/-- The record of a node goes to the token of the node. -/
def Iort.Source.deposit : Source → Deposit
  | itsGroup record => .ofRecord record.token record
  | namedComponent record => .ofRecord record.token record
  | rootComplex record => .ofRecord record.token record
  | smmuV1V2 record => .ofRecord record.token record
  | smmuV3 record => .ofRecord record.token record
  | pmcg record => .ofRecord record.token record

/-! The records of nodes, given the lengths and the tokens of their lists. -/

/-- The record of a group of translation services. -/
def ItsGroupSection.source (tokens : NodeTokens) (group : ItsGroupSection)
    (ids : UInt32 × Token) : Source :=
  .itsGroup ⟨tokens.tokenOf group.name, ids.1, ids.2⟩

/-- The record of a named component. -/
def NamedComponentSection.source (tokens : NodeTokens) (component : NamedComponentSection)
    (mappings : UInt32 × Token) : Source :=
  .namedComponent ⟨tokens.tokenOf component.name, mappings.1, mappings.2, component.flags,
    component.cacheCoherent, component.allocationHints, component.memoryAccessFlags,
    component.addressSizeLimit, component.objectName⟩

/-- The record of a root complex. -/
def RootComplexSection.source (tokens : NodeTokens) (complex : RootComplexSection)
    (mappings : UInt32 × Token) : Source :=
  .rootComplex ⟨tokens.tokenOf complex.name, mappings.1, mappings.2, complex.cacheCoherent,
    complex.allocationHints, complex.memoryAccessFlags, complex.atsAttribute,
    complex.pciSegmentNumber, complex.memoryAddressSize⟩

/-- The record of a memory management unit of the first or second version. -/
def SmmuV1V2Section.source (tokens : NodeTokens) (smmu : SmmuV1V2Section)
    (mappings context pmu : UInt32 × Token) : Source :=
  .smmuV1V2 ⟨tokens.tokenOf smmu.name, mappings.1, mappings.2, smmu.baseAddress, smmu.span,
    smmu.model, smmu.flags, context.1, context.2, pmu.1, pmu.2, smmu.nsgIrpt, smmu.nsgIrptFlags,
    smmu.nsgCfgIrpt, smmu.nsgCfgIrptFlags⟩

/-- The record of a memory management unit of the third version. -/
def SmmuV3Section.source (tokens : NodeTokens) (smmu : SmmuV3Section)
    (mappings : UInt32 × Token) : Source :=
  .smmuV3 ⟨tokens.tokenOf smmu.name, mappings.1, mappings.2, smmu.baseAddress, smmu.flags,
    smmu.vatosAddress, smmu.model, smmu.eventInterrupt, smmu.priInterrupt, smmu.gerrInterrupt,
    smmu.syncInterrupt, smmu.proximityDomain, smmu.deviceIdMappingIndex⟩

/-- The record of a group of performance counters. -/
def PmcgSection.source (tokens : NodeTokens) (group : PmcgSection)
    (mappings : UInt32 × Token) : Source :=
  .pmcg ⟨tokens.tokenOf group.name, mappings.1, mappings.2, group.baseAddress,
    group.overflowInterrupt, group.page1BaseAddress, tokens.tokenOf group.reference⟩

namespace NodeSection

/-- The lists of a node, and the record that refers to them. -/
def lists (tokens : NodeTokens) (issued : Nat) : NodeSection → Draft Source
  | itsGroup group =>
    (Draft.ofList issued (group.itsIds.map ItsIdentifier.mk)).map (group.source tokens)
  | namedComponent component => (mapped component.idMappings).map (component.source tokens)
  | rootComplex complex => (mapped complex.idMappings).map (complex.source tokens)
  | smmuV1V2 smmu =>
    let mappings := mapped smmu.idMappings
    let context := Draft.ofList mappings.issued smmu.contextInterrupts
    let pmu := Draft.ofList context.issued smmu.pmuInterrupts
    ⟨smmu.source tokens mappings.value context.value pmu.value, pmu.issued,
      mappings.deposits ++ (context.deposits ++ pmu.deposits)⟩
  | smmuV3 smmu => (mapped smmu.idMappings).map (smmu.source tokens)
  | pmcg group => (mapped group.idMappings).map (group.source tokens)
where
  /-- The list of the id mappings of a node. -/
  mapped (mappings : List MappingSection) : Draft (UInt32 × Token) :=
    Draft.ofList issued (mappings.map (MappingSection.record tokens))

/-- The lists of a node, and then its record. -/
def draft (tokens : NodeTokens) (issued : Nat) (node : NodeSection) : Draft Unit :=
  let lists := node.lists tokens issued
  ⟨(), lists.issued, lists.deposits ++ [lists.value.deposit]⟩

/-- The names that a node is stored with: its own, and those it refers to. -/
def mentioned (node : NodeSection) : List String :=
  node.name :: node.mappings.map (·.output) ++ node.reference?.toList

end NodeSection

/-- The handle of a device goes to a token. -/
def Device.deposit (token : Token) : Device → Deposit
  | acpi handle => .ofRecord token handle
  | pci handle => .ofRecord token handle

/-- The handle of the device under a new token, and then the record that refers to it. -/
def InitiatorSection.draft (issued : Nat) (initiator : InitiatorSection) : Draft Unit where
  value := ()
  issued := issued + 1
  deposits := [initiator.device.deposit (.next issued), .ofRecord .null
    (⟨initiator.proximityDomain, initiator.flags, initiator.device.type, .next issued⟩ :
      GenericInitiator)]

namespace Platform

/-- The plain lists of a description. -/
def plainDeposits (platform : Platform) : List Deposit :=
  PlainList.all.flatMap fun list => (list.records platform).map (.ofRecord .null)

/-- The nodes of a description, whose names take the first tokens. -/
def nodeDraft (platform : Platform) (issued : Nat) : Draft Unit :=
  Draft.inOrder (NodeSection.draft (numbered issued platform.nodeNames))
    (issued + platform.nodeNames.length) platform.nodes

/-- The plain lists, the nodes and the initiators of a description. -/
def draft (platform : Platform) (issued : Nat) : Draft Unit :=
  let nodes := platform.nodeDraft issued
  let initiators := Draft.inOrder InitiatorSection.draft nodes.issued platform.initiators
  ⟨(), initiators.issued, platform.plainDeposits ++ (nodes.deposits ++ initiators.deposits)⟩

/-- **Everything that a description adds**, with the tokens that come after those issued before. -/
def deposits (platform : Platform) (issued : Nat) : List Deposit := (platform.draft issued).deposits

end Platform

/-! ### Following a draft -/

namespace Population

variable {α β : Type} {ι : Type _}

/-- A population makes the deposits of a draft, up to the first that is refused, and ends as the
draft says if none is. -/
structure Follows (action : Population α) (issued : Nat) (draft : Draft α) : Prop where
  /-- If all deposits are taken, everything is as in the draft. -/
  done : ∀ store : Store, (store.take draft.deposits).outcome.result = .ok () →
    action ⟨store, issued⟩ = (.ok draft.value, ⟨(store.take draft.deposits).store, draft.issued⟩)
  /-- If one is refused, its error is that of the population. -/
  refused : ∀ (store : Store) (error : RepositoryError),
    (store.take draft.deposits).outcome.result = .error error →
      ∃ number, action ⟨store, issued⟩ =
        (.error (.repository error), ⟨(store.take draft.deposits).store, number⟩)

namespace Follows

variable {action : Population α} {issued : Nat} {draft : Draft α}

theorem pure (value : α) (issued : Nat) :
    Follows (Pure.pure value : Population α) issued ⟨value, issued, []⟩ :=
  ⟨fun _ _ => rfl, fun _ _ refused => nomatch refused⟩

/-- **One draft after another.** -/
theorem bind {rest : Draft β} (first : Follows action issued draft) (next : α → Population β)
    (second : Follows (next draft.value) draft.issued rest) :
    Follows (action >>= next) issued
      ⟨rest.value, rest.issued, draft.deposits ++ rest.deposits⟩ := by
  refine ⟨fun store taken => ?_, fun store error refused => ?_⟩
  -- The first deposits decide whether the others are reached at all.
  · cases early : (store.take draft.deposits).outcome.result with
    | error error =>
      rw [(Store.take_append_error _ rest.deposits early).2] at taken
      cases taken
    | ok value =>
      obtain ⟨last, result⟩ := Store.take_append draft.deposits rest.deposits early
      dsimp only at taken ⊢
      rw [result] at taken
      rw [bind_ok (first.done store early), second.done _ taken, last]
  · cases early : (store.take draft.deposits).outcome.result with
    | error other =>
      obtain ⟨last, result⟩ := Store.take_append_error draft.deposits rest.deposits early
      obtain ⟨number, stopped⟩ := first.refused store other early
      dsimp only at refused ⊢
      rw [result] at refused
      cases refused
      exact ⟨number, by rw [bind_eq, stopped, last]⟩
    | ok value =>
      obtain ⟨last, result⟩ := Store.take_append draft.deposits rest.deposits early
      dsimp only at refused ⊢
      rw [result] at refused
      obtain ⟨number, stopped⟩ := second.refused _ error refused
      exact ⟨number, by rw [bind_ok (first.done store early), stopped, last]⟩

/-- A step that changes nothing comes before. -/
theorem after {next : α → Population β} {value : α} {rest : Draft β}
    (known : action = Pure.pure value) (second : Follows (next value) issued rest) :
    Follows (action >>= next) issued rest := by
  rw [known]
  exact (pure value issued).bind next second

/-- Something else is made of the value in the end. -/
theorem give (first : Follows action issued draft) (change : α → β) :
    Follows (action >>= fun value => Pure.pure (change value)) issued (draft.map change) := by
  have both := first.bind (fun value => Pure.pure (change value)) (pure _ draft.issued)
  dsimp only at both
  rw [List.append_nil] at both
  exact both

theorem newToken (issued : Nat) :
    Follows Population.newToken issued ⟨.next issued, issued + 1, []⟩ :=
  ⟨fun _ _ => rfl, fun _ _ refused => nomatch refused⟩

theorem addRecords [Record α] (token : Token) (records : List α) (issued : Nat) :
    Follows (Population.addRecords token records) issued
      ⟨(), issued, records.map (Deposit.ofRecord token)⟩ := by
  refine ⟨fun store taken => ?_, fun store error refused => ⟨issued, ?_⟩⟩
  · dsimp only at taken
    unfold Population.addRecords Population.store
    dsimp only
    rw [addObjects_eq_take, taken]
    rfl
  · dsimp only at refused
    unfold Population.addRecords Population.store
    dsimp only
    rw [addObjects_eq_take, refused]
    rfl

theorem addRecord [Record α] (token : Token) (record : α) (issued : Nat) :
    Follows (Population.addRecord token record) issued
      ⟨(), issued, [Deposit.ofRecord token record]⟩ :=
  addRecords token [record] issued

theorem addList [Record α] (records : List α) (issued : Nat) :
    Follows (Population.addList records) issued (Draft.ofList issued records) := by
  unfold Population.addList Draft.ofList
  by_cases none : records.isEmpty = true
  · rw [if_pos none, if_pos none]
    exact pure (0, Token.null) issued
  · rw [if_neg none, if_neg none]
    have stored := (addRecords (.next issued) records (issued + 1)).give fun _ =>
      (UInt32.ofNat records.length, Token.next issued)
    exact (newToken issued).bind (fun token => do
      Population.addRecords token records
      return (UInt32.ofNat records.length, token)) stored

/-- **A population for every item of a list.** -/
theorem forM {action : ι → Population Unit} {draft : Nat → ι → Draft Unit} {items : List ι}
    (step : ∀ item ∈ items, ∀ issued, Follows (action item) issued (draft issued item))
    (issued : Nat) : Follows (items.forM action) issued (Draft.inOrder draft issued items) := by
  induction items generalizing issued with
  | nil => exact pure () issued
  | cons item items ih =>
    have first := step item List.mem_cons_self issued
    have rest := ih (fun other inside => step other (List.mem_cons_of_mem _ inside))
      (draft issued item).issued
    exact first.bind _ rest

end Follows

end Population

/-! ### Sections are stored as drafted -/

open Population (Follows)

theorem NodeTokens.find_eq {tokens : NodeTokens} {name : String}
    (known : name ∈ tokens.map Prod.fst) :
    tokens.find name = pure (tokens.tokenOf name) := by
  unfold find tokenOf
  obtain ⟨entry, inside, same⟩ := List.mem_map.mp known
  cases found : List.find? (fun entry => entry.1 == name) tokens with
  | none => exact absurd (beq_iff_eq.mpr same) (List.find?_eq_none.mp found entry inside)
  | some entry => rfl

/-- The outputs of mappings are found, if they are known. -/
theorem MappingSection.mapM_find {tokens : NodeTokens} {mappings : List MappingSection}
    (known : ∀ mapping ∈ mappings, mapping.output ∈ tokens.map Prod.fst) :
    (mappings.mapM fun mapping => do
        let output ← tokens.find mapping.output
        return (⟨mapping.inputBase, mapping.numIds, mapping.outputBase, output, mapping.flags⟩ :
          IdMapping) : Population (List IdMapping)) =
      pure (mappings.map (MappingSection.record tokens)) := by
  induction mappings with
  | nil => rfl
  | cons mapping mappings ih =>
    have behind := ih fun other inside => known other (List.mem_cons_of_mem _ inside)
    rw [List.mapM_cons, NodeTokens.find_eq (known mapping List.mem_cons_self), behind]
    rfl

theorem MappingSection.addAll_follows {tokens : NodeTokens} {mappings : List MappingSection}
    (known : ∀ mapping ∈ mappings, mapping.output ∈ tokens.map Prod.fst) (issued : Nat) :
    Follows (MappingSection.addAll tokens mappings) issued
      (Draft.ofList issued (mappings.map (MappingSection.record tokens))) := by
  unfold MappingSection.addAll
  exact (Follows.addList _ issued).after (MappingSection.mapM_find known)

/-- The record of a node is stored. -/
theorem Iort.Source.add_follows (source : Source) (issued : Nat) :
    Follows source.add issued ⟨(), issued, [source.deposit]⟩ := by
  cases source <;> exact .addRecord _ _ issued

namespace NodeSection

variable {tokens : NodeTokens} {issued : Nat}

/-- A list of a node, and then its record. -/
theorem addListed_follows {list : Draft (UInt32 × Token)} {action : Population (UInt32 × Token)}
    (follows : Follows action issued list) (source : UInt32 × Token → Source) :
    Follows (action >>= fun stored => (source stored).add) issued
      ⟨(), list.issued, list.deposits ++ [(source list.value).deposit]⟩ :=
  follows.bind (fun stored => (source stored).add) ((source list.value).add_follows list.issued)

/-- **A node is stored as drafted**, if it mentions known names only. -/
theorem add_follows {node : NodeSection} (known : ∀ name ∈ node.mentioned,
    name ∈ tokens.map Prod.fst) (issued : Nat) :
    Follows (node.add tokens) issued (node.draft tokens issued) := by
  have own := NodeTokens.find_eq (known node.name List.mem_cons_self)
  have outputs : ∀ mapping ∈ node.mappings, mapping.output ∈ tokens.map Prod.fst :=
    fun mapping inside => known _ (List.mem_cons_of_mem _
      (List.mem_append_left _ (List.mem_map_of_mem inside)))
  have mapped := MappingSection.addAll_follows outputs issued
  cases node with
  | itsGroup group =>
    have ids := Follows.addList (group.itsIds.map ItsIdentifier.mk) issued
    exact .after own (addListed_follows ids (group.source tokens))
  | namedComponent component =>
    exact .after own (addListed_follows mapped (component.source tokens))
  | rootComplex complex => exact .after own (addListed_follows mapped (complex.source tokens))
  | smmuV1V2 smmu =>
    have pmu := fun mappings context issued =>
      addListed_follows (.addList smmu.pmuInterrupts issued) (smmu.source tokens mappings context)
    have context := fun mappings issued =>
      (Follows.addList smmu.contextInterrupts issued).bind (fun context => do
        let pmu ← Population.addList smmu.pmuInterrupts
        (smmu.source tokens mappings context pmu).add) (pmu mappings _ _)
    have whole := mapped.bind (fun mappings => do
      let context ← Population.addList smmu.contextInterrupts
      let pmu ← Population.addList smmu.pmuInterrupts
      (smmu.source tokens mappings context pmu).add) (context _ _)
    refine .after own ?_
    unfold draft lists
    dsimp only
    rw [List.append_assoc, List.append_assoc]
    exact whole
  | smmuV3 smmu => exact .after own (addListed_follows mapped (smmu.source tokens))
  | pmcg group =>
    have monitored : group.reference ∈ tokens.map Prod.fst := by
      refine known group.reference ?_
      exact List.mem_append_right (group.name :: _) List.mem_cons_self
    refine .after own ?_
    rw [NodeTokens.find_eq monitored]
    exact addListed_follows mapped (group.source tokens)

end NodeSection

/-! ### The objects of deposits -/

theorem Draft.mem_inOrder {ι : Type _} {draft : Nat → ι → Draft Unit} {issued : Nat}
    {items : List ι} {deposit : Deposit} (inside : deposit ∈ (inOrder draft issued items).deposits) :
    ∃ item ∈ items, ∃ number, deposit ∈ (draft number item).deposits := by
  induction items generalizing issued with
  | nil => cases inside
  | cons item items ih =>
    rcases List.mem_append.mp inside with inside | inside
    · exact ⟨item, List.mem_cons_self, issued, inside⟩
    · obtain ⟨other, member, found⟩ := ih inside
      exact ⟨other, List.mem_cons_of_mem _ member, found⟩

theorem Draft.id_ofList {α : Type} [Record α] {issued : Nat} {records : List α} {deposit : Deposit}
    (inside : deposit ∈ (ofList issued records).deposits) : deposit.id = Record.objectId α := by
  unfold ofList at inside
  split at inside
  · cases inside
  · obtain ⟨record, _, rfl⟩ := List.mem_map.mp inside
    rfl

/-- A node and its lists are nodes and arrays. -/
theorem NodeSection.id_draft {tokens : NodeTokens} {issued : Nat} {node : NodeSection}
    {deposit : Deposit} (inside : deposit ∈ (node.draft tokens issued).deposits) :
    deposit.id ∈ arrayIds ++ nodeIds := by
  rcases List.mem_append.mp inside with inside | inside
  · cases node with
    | smmuV1V2 smmu =>
      rcases List.mem_append.mp inside with inside | inside
      · rw [Draft.id_ofList inside]
        decide
      rcases List.mem_append.mp inside with inside | inside <;>
      · rw [Draft.id_ofList inside]
        decide
    | itsGroup | namedComponent | rootComplex | smmuV3 | pmcg =>
      rw [Draft.id_ofList inside]
      decide
  · rw [List.mem_singleton.mp inside]
    cases node <;> exact List.contains_iff_mem.mp rfl

theorem InitiatorSection.id_draft {issued : Nat} {initiator : InitiatorSection}
    {deposit : Deposit} (inside : deposit ∈ (initiator.draft issued).deposits) :
    deposit.id ∈ initiatorIds := by
  rcases List.mem_cons.mp inside with rfl | inside
  · cases initiator.device <;> exact List.contains_iff_mem.mp rfl
  · rw [List.mem_singleton.mp inside]
    exact List.mem_cons_self

/-- **The table requests come first**, and nothing else is one. -/
theorem Platform.deposits_tables (platform : Platform) (issued : Nat) :
    ∃ others, platform.deposits issued =
        platform.tables.map (Deposit.ofRecord .null) ++ others ∧
      ∀ deposit ∈ others, deposit.id ≠ Record.objectId TableRequest := by
  let nodes := platform.nodeDraft issued
  let initiators := Draft.inOrder InitiatorSection.draft nodes.issued platform.initiators
  refine ⟨PlainList.all.tail.flatMap (fun list => (list.records platform).map (.ofRecord .null)) ++
    (nodes.deposits ++ initiators.deposits), ?_, ?_⟩
  · rw [← List.append_assoc]
    rfl
  · intro deposit inside
    rcases List.mem_append.mp inside with inside | inside
    · obtain ⟨list, member, there⟩ := List.mem_flatMap.mp inside
      obtain ⟨record, _, rfl⟩ := List.mem_map.mp there
      exact (by decide : ∀ id ∈ PlainList.all.tail.map PlainList.id,
        id ≠ Record.objectId TableRequest) _ (List.mem_map_of_mem member)
    rcases List.mem_append.mp inside with inside | inside
    · obtain ⟨node, _, number, there⟩ := Draft.mem_inOrder inside
      exact (by decide : ∀ id ∈ arrayIds ++ nodeIds, id ≠ Record.objectId TableRequest) _
        (NodeSection.id_draft there)
    · obtain ⟨initiator, _, number, there⟩ := Draft.mem_inOrder inside
      exact (by decide : ∀ id ∈ initiatorIds, id ≠ Record.objectId TableRequest) _
        (InitiatorSection.id_draft there)

end FirmwareTables
