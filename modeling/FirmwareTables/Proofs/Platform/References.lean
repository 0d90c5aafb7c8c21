/-
**References by name.**

In a remapping table that is built from what descriptions stored, the nodes stand kind by kind, the
last stored in front (`tableNodes`), and every id mapping and every group of counters has the offset
of the node that goes by the name given for it in the same description (`HasReferences`).

* `tableNodes_perm`, `realized_tableNodes`: all nodes are there, and their records are those that
  are listed, in this order;
* `exists_carrier`, `PointsTo.leadsTo`: from a name to a token, and from the token back to the name;
* `isComplete_tableNodes`: nothing that is referred to is missing, so that the table is refused only
  over too much of something;
* `hasReferences`: where the references lead in a table that is built.
-/

import FirmwareTables.Proofs.Iort.References
import FirmwareTables.Proofs.Platform.Configured
import FirmwareTables.Proofs.Platform.Excess
import Mathlib.Data.List.Nodup

namespace FirmwareTables

open Iort (Source NodeKind Inventory)

/-! ### Nodes in the order of the table -/

/-- The nodes of descriptions in the order of the table, each with the number of its description. -/
def tableNodes (platforms : List Platform) : List (Nat × NodeSection) :=
  NodeKind.all.flatMap fun kind =>
    (allNodes platforms).reverse.filter fun labelled => labelled.2.kind == kind

/-- Items sorted by their kinds are the same items, if all kinds are there once. -/
theorem flatMap_filter_perm {α : Type} (kind : α → NodeKind) (items : List α)
    {kinds : List NodeKind} (distinct : kinds.Nodup) :
    (kinds.flatMap fun own => items.filter fun item => kind item == own).Perm
      (items.filter fun item => kinds.contains (kind item)) := by
  induction kinds with
  | nil => simp
  | cons own kinds ih =>
    obtain ⟨fresh, distinct⟩ := List.nodup_cons.mp distinct
    have parts := List.filter_append_perm (fun item => kind item == own)
      (items.filter fun item => (own :: kinds).contains (kind item))
    have first : (items.filter fun item => (own :: kinds).contains (kind item)).filter
        (fun item => kind item == own) = items.filter fun item => kind item == own := by
      rw [List.filter_filter]
      refine List.filter_congr fun item _ => ?_
      by_cases same : kind item = own
      · simp [same]
      · simp [same]
    have rest : (items.filter fun item => (own :: kinds).contains (kind item)).filter
        (fun item => !(kind item == own)) =
          items.filter fun item => kinds.contains (kind item) := by
      rw [List.filter_filter]
      refine List.filter_congr fun item _ => ?_
      by_cases same : kind item = own
      · simp [same, fresh]
      · simp [same]
    rw [List.flatMap_cons]
    rw [first, rest] at parts
    exact ((ih distinct).append_left _).trans parts

/-- **Every node of every description is in the table**, and only once. -/
theorem tableNodes_perm (platforms : List Platform) :
    (tableNodes platforms).Perm (allNodes platforms) := by
  have sorted := flatMap_filter_perm (fun labelled : Nat × NodeSection => labelled.2.kind)
    (allNodes platforms).reverse (by decide : NodeKind.all.Nodup)
  have all : (allNodes platforms).reverse.filter (fun labelled =>
      NodeKind.all.contains labelled.2.kind) = (allNodes platforms).reverse := by
    rw [List.filter_eq_self]
    intro labelled _
    exact List.contains_iff_mem.mpr labelled.2.kind.mem_all
  rw [all] at sorted
  exact sorted.trans (List.reverse_perm _)

/-- **The records listed** are those of the nodes in the order of the table. -/
theorem realized_tableNodes {tables : List NodeTokens} {platforms : List Platform}
    {sources : List Source} {store : Store}
    (realized : List.Forall₂ (IsRealized store tables) (allNodes platforms) sources) :
    List.Forall₂ (IsRealized store tables) (tableNodes platforms)
      (Inventory.ofSources sources.reverse).sources := by
  rw [Inventory.sources_ofSources]
  unfold tableNodes
  have kinds : List.Forall₂ Eq NodeKind.all NodeKind.all := List.forall₂_refl _
  refine List.rel_flatMap kinds ?_
  rintro kind _ rfl
  refine List.rel_filter ?_ (List.rel_reverse realized)
  rintro labelled source ⟨tokens, _, realizes⟩
  show (labelled.2.kind == kind) = true ↔ (source.kind == kind) = true
  rw [realizes.kind_eq]

/-! ### Tokens and names -/

/-- A number in a table is the offset of the node that a description has under a name. -/
def LeadsTo (bytes : Bytes) (nodes : List (Nat × NodeSection)) (mets : List Met) (place : Nat)
    (number : Nat) (name : String) : Prop :=
  ∃ (position : Nat) (node : NodeSection) (target : Met), nodes[position]? = some (number, node) ∧
    node.name = name ∧ mets[position]? = some target ∧
    (bytes.read32? place).map UInt32.toNat = some target.offset

section

variable {platforms : List Platform} {tables : List NodeTokens} {sources : List Source}
  {configuration : Configuration} {number : Nat} {tokens : NodeTokens} {name : String}
  {token : Token}

/-- **Every token of a name is carried** by the record of the node with this name. -/
theorem exists_carrier (consistent : ∀ platform ∈ platforms, platform.validate = .ok ())
    (names : tables.map (fun tokens => tokens.map Prod.fst) = platforms.map Platform.nodeNames)
    (realized : List.Forall₂ (IsRealized configuration.store tables) (tableNodes platforms) sources)
    (here : tables[number]? = some tokens) (named : (name, token) ∈ tokens) :
    ∃ source ∈ sources, source.token = token := by
  have same := congrArg (fun lists => lists[number]?) names
  simp only [List.getElem?_map, here, Option.map_some] at same
  obtain ⟨platform, known, own⟩ := Option.map_eq_some_iff.mp same.symm
  have member : name ∈ platform.nodes.map NodeSection.name := by
    rw [platform.nodes_names, own]
    exact List.mem_map_of_mem named
  obtain ⟨node, inside, rfl⟩ := List.mem_map.mp member
  obtain ⟨source, among, other, there, realizes⟩ := exists_of_forall₂ realized
    ((tableNodes_perm platforms).mem_iff.mpr (mem_allNodes.mpr ⟨platform, known, inside⟩))
  rw [here] at there
  cases there
  -- The names are different, so that the record's token is the one of the name.
  have distinct := (Platform.validate_eq_ok (consistent platform (List.mem_of_getElem? known))).1
  rw [own] at distinct
  have equal := List.inj_on_of_nodup_map distinct realizes.named named rfl
  exact ⟨source, among, congrArg Prod.snd equal⟩

theorem isSome_carrier (has : HasTokens tables configuration)
    (carried : ∃ source ∈ sources, source.token = token)
    (here : tables[number]? = some tokens) (named : (name, token) ∈ tokens) :
    (Iort.carrier? sources token).isSome := by
  have issued := has.issued tokens (List.mem_of_getElem? here) _ named
  exact Iort.carrier?_isSome issued.2 carried

/-- **A reference to the token of a name** leads to the node with this name. -/
theorem Iort.PointsTo.leadsTo (has : HasTokens tables configuration)
    (realized : List.Forall₂ (IsRealized configuration.store tables) (tableNodes platforms) sources)
    (here : tables[number]? = some tokens) (named : (name, token) ∈ tokens) {bytes : Bytes}
    {mets : List Met} {place : Nat} (points : PointsTo bytes sources mets place token) :
    LeadsTo bytes (tableNodes platforms) mets place number name := by
  obtain ⟨position, target, found, met, read⟩ := points
  obtain ⟨source, known, rfl⟩ := carrier?_eq_some found
  obtain ⟨bound, same⟩ := List.getElem?_eq_some_iff.mp known
  have within : position < (tableNodes platforms).length := by
    rw [realized.length_eq]
    exact bound
  obtain ⟨other, there, realizes⟩ := realized.get within bound
  rw [List.get_eq_getElem, List.get_eq_getElem, same] at realizes
  rw [List.get_eq_getElem] at there
  obtain ⟨rfl, label⟩ := has.apart _ _ _ _ _ _ _ there here realizes.named named
  exact ⟨position, _, target, List.getElem?_eq_getElem within, label, met, read⟩

end

/-! ### Nothing is missing -/

/-- The texts of a description can be stored: their lengths are 64-bit numbers. -/
def Platform.HasShortNames (platform : Platform) : Prop :=
  ∀ component ∈ platform.namedComponents,
    (Utf8.encode component.objectName).length < UInt64.size

theorem IsStored.hasItems {α : Type} [Record α] {store : Store} {records : List α} {count : UInt32}
    {token : Token} (stored : IsStored store records count token)
    (fixed : ∀ field ∈ Record.fields α, field.kind.IsFixed = true) (counted : count ≠ 0) :
    Iort.HasItems α store.view token count := by
  have listed := stored.getList_eq (Record.areReadable fixed _) (stored.ne_nil counted)
  exact ⟨records, listed.2, Nat.le_of_eq stored.toNat_eq⟩

theorem MapsTo.toNat_eq {store : Store} {tokens : NodeTokens} {mappings : List MappingSection}
    {count : UInt32} {array : Token} (maps : MapsTo store tokens mappings count array) :
    count.toNat = mappings.length := by
  obtain ⟨records, related, stored⟩ := maps
  rw [stored.toNat_eq, related.length_eq]

/-- **A stored mapping** is read in its place, with the token of the node that it goes to. -/
theorem MapsTo.exists_record {store : Store} {tokens : NodeTokens} {mappings : List MappingSection}
    {count : UInt32} {array : Token} (maps : MapsTo store tokens mappings count array) {item : Nat}
    {mapping : MappingSection} (here : mappings[item]? = some mapping) :
    ∃ records record, (store.view.getList IdMapping array).result = .ok records ∧
      records[item]? = some record ∧ mapping.Gives tokens record ∧ item < count.toNat ∧
      array.isNull = false := by
  have below : item < count.toNat := by
    rw [maps.toNat_eq]
    exact (List.getElem?_eq_some_iff.mp here).1
  obtain ⟨records, related, stored⟩ := maps
  obtain ⟨record, member, gives⟩ := getElem?_of_forall₂ related here
  have filled : records ≠ [] := List.ne_nil_of_mem (List.mem_of_getElem? member)
  obtain ⟨named, listed⟩ := stored.getList_eq (Record.areReadable (by decide) _) filled
  exact ⟨records, record, listed, member, gives, below, named⟩

theorem NodeSection.Realizes.isReadable {store : Store} {tokens : NodeTokens} {platform : Platform}
    {node : NodeSection} {source : Source} (realizes : node.Realizes store tokens source)
    (inside : node ∈ platform.nodes) (short : platform.HasShortNames) :
    ∀ record ∈ source.namedComponent?, Record.IsReadable record := by
  intro record taken
  cases realizes with
  | @namedComponent component =>
    cases taken
    have member : component ∈ platform.namedComponents := by
      simpa [Platform.nodes] using inside
    have size : Bytes.capacity 8 = UInt64.size := rfl
    refine ⟨trivial, trivial, trivial, trivial, trivial, trivial, trivial, trivial, ?_, trivial⟩
    show (Utf8.encode component.objectName).length < Bytes.capacity 8
    rw [size]
    exact short component member
  | itsGroup | rootComplex | smmuV1V2 | smmuV3 | pmcg => cases taken

theorem HoldsNodes.isReadable {tables : List NodeTokens} {platforms : List Platform}
    {sources : List Source} {store : Store}
    (holds : HoldsNodes tables (allNodes platforms) sources store)
    (short : ∀ platform ∈ platforms, platform.HasShortNames) :
    ∀ source ∈ sources, ∀ record ∈ source.namedComponent?, Record.IsReadable record := by
  intro source inside
  obtain ⟨⟨number, node⟩, member, tokens, _, realizes⟩ :=
    exists_of_forall₂ holds.realized.flip inside
  obtain ⟨platform, known, here⟩ := mem_allNodes.mp member
  exact realizes.isReadable here (short platform (List.mem_of_getElem? known))

/-- The records that the table of stored nodes is made from. -/
structure HoldsTable (platforms : List Platform) (configuration : Configuration)
    (tables : List NodeTokens) (sources : List Source) : Prop where
  /-- The tokens of the names. -/
  tokens : HasTokens tables configuration
  /-- The entries of the records. -/
  entries : configuration.store.nodes = sources.map Source.entry
  /-- The names can be read. -/
  readable : ∀ source ∈ sources, ∀ record ∈ source.namedComponent?, Record.IsReadable record
  /-- The records in the order of the table. -/
  realized : List.Forall₂ (IsRealized configuration.store tables) (tableNodes platforms)
    (Inventory.ofSources sources).sources
  /-- Nothing that they refer to is missing. -/
  complete : ∀ source ∈ (Inventory.ofSources sources).sources,
    source.IsComplete configuration.store.view (Inventory.ofSources sources).sources

/-- **The records of stored descriptions refer to nothing that is missing.** -/
theorem isComplete_tableNodes {platforms : List Platform} {tables : List NodeTokens}
    {sources : List Source} {configuration : Configuration}
    (consistent : ∀ platform ∈ platforms, platform.validate = .ok ())
    (names : tables.map (fun tokens => tokens.map Prod.fst) = platforms.map Platform.nodeNames)
    (has : HasTokens tables configuration)
    (realized : List.Forall₂ (IsRealized configuration.store tables) (tableNodes platforms)
      sources) :
    ∀ source ∈ sources, source.IsComplete configuration.store.view sources := by
  intro source inside
  obtain ⟨⟨number, node⟩, _, tokens, here, realizes⟩ := exists_of_forall₂ realized.flip inside
  have carried : ∀ name token, (name, token) ∈ tokens → (Iort.carrier? sources token).isSome := by
    intro name token named
    exact isSome_carrier has (exists_carrier consistent names realized here named) here named
  refine ⟨?_, ?_, ?_⟩
  · cases realizes with
    | itsGroup _ ids => exact ids.hasItems (by decide)
    | smmuV1V2 _ _ context pmu =>
      exact ⟨context.hasItems (by decide), fun counted _ => pmu.hasItems (by decide) counted⟩
    | namedComponent | rootComplex | smmuV3 | pmcg => exact trivial
  · intro counted _
    obtain ⟨records, related, stored⟩ := realizes.mapsTo
    have listed := stored.getList_eq (Record.areReadable (by decide) _) (stored.ne_nil counted)
    refine ⟨records, listed.2, Nat.le_of_eq stored.toNat_eq, ?_⟩
    intro record member
    obtain ⟨mapping, _, gives⟩ := exists_of_forall₂ related.flip (List.mem_of_mem_take member)
    exact carried _ _ gives.1
  · intro token refers
    cases realizes with
    | pmcg _ _ monitored =>
      cases refers
      exact carried _ _ monitored
    | itsGroup | namedComponent | rootComplex | smmuV1V2 | smmuV3 => cases refers

theorem HasNodes.holdsTable {platforms : List Platform} {configuration : Configuration}
    (nodes : HasNodes platforms configuration)
    (consistent : ∀ platform ∈ platforms, platform.validate = .ok ())
    (short : ∀ platform ∈ platforms, platform.HasShortNames) :
    ∃ tables sources, HoldsTable platforms configuration tables sources := by
  obtain ⟨tables, names, has, sources, holds⟩ := nodes
  have realized := realized_tableNodes holds.realized
  refine ⟨tables, sources.reverse, has, ?_, ?_, realized, ?_⟩
  · rw [holds.entries, List.map_reverse]
  · exact fun source inside => holds.isReadable short source (List.mem_reverse.mp inside)
  · exact isComplete_tableNodes consistent names has realized

/-! ### The table that is built -/

/-- What is met at a place is the node of a section of a description, given by number: it is written
from a record of the section, and its references lead to the nodes with the names given. -/
structure NodeSection.IsAt (store : Store) (bytes : Bytes) (nodes : List (Nat × NodeSection))
    (mets : List Met) (number : Nat) (node : NodeSection) (met : Met) : Prop where
  /-- It is written from a record of the section. -/
  written : ∃ (tokens : NodeTokens) (source : Source) (context : Context) (image : Bytes),
    node.Realizes store tokens source ∧ source.parts context = .ok image ∧
      bytes.slice? met.offset met.length = some image
  /-- It states the number of id mappings. -/
  count : (bytes.read32? (met.offset + 8)).map UInt32.toNat = some node.mappings.length
  /-- Each id mapping leads to the node that it goes to. -/
  mappings : ∀ (item : Nat) (mapping : MappingSection), node.mappings[item]? = some mapping →
    ∃ start, (bytes.read32? (met.offset + 12)).map UInt32.toNat = some start ∧
      LeadsTo bytes nodes mets (met.offset + (start + (20 * item + 12))) number mapping.output
  /-- A group of counters leads to the node that it monitors. -/
  reference : ∀ name ∈ node.reference?, LeadsTo bytes nodes mets (met.offset + 28) number name

/-- From byte 48 to the end there are the nodes of all descriptions, with their references. -/
def HasReferences (platforms : List Platform) (store : Store) (bytes : Bytes) : Prop :=
  ∃ mets, LengthForm.long.walk bytes 48 = some mets ∧
    mets.map Met.type = (tableNodes platforms).map (fun labelled => labelled.2.kind.number) ∧
    ∀ (position number : Nat) (node : NodeSection) (met : Met),
      (tableNodes platforms)[position]? = some (number, node) → mets[position]? = some met →
        node.IsAt store bytes (tableNodes platforms) mets number met

namespace HoldsTable

variable {platforms : List Platform} {configuration : Configuration} {tables : List NodeTokens}
  {sources : List Source}

theorem isSteady (holds : HoldsTable platforms configuration tables sources) :
    ∀ category ∈ Iort.layout.categories,
      category.IsSteady configuration.store.view Iort.layout.limits TableError.IsExcess := by
  simp only [Iort.layout, List.forall_mem_cons]
  refine ⟨?_, ?_, ?_, ?_, ?_, ?_, List.forall_mem_nil _⟩
  · exact Category.IsOf.steady_excess ⟨rfl, rfl⟩ (fun _ => ⟨_, rfl⟩) (by decide) (by decide)
      (Source.picks_itsGroup.finds holds.entries) (Record.areReadable (by decide) _) _
  · exact Category.IsOf.steady_excess ⟨rfl, rfl⟩ (fun _ => ⟨_, rfl⟩) (by decide) (by decide)
      (Source.picks_namedComponent.finds holds.entries)
      (Inventory.readable_components holds.readable) _
  · exact Category.IsOf.steady_excess ⟨rfl, rfl⟩ (fun _ => ⟨_, rfl⟩) (by decide) (by decide)
      (Source.picks_rootComplex.finds holds.entries) (Record.areReadable (by decide) _) _
  · exact Category.IsOf.steady_excess ⟨rfl, rfl⟩ (fun _ => ⟨_, rfl⟩) (by decide) (by decide)
      (Source.picks_smmuV1V2.finds holds.entries) (Record.areReadable (by decide) _) _
  · exact Category.IsOf.steady_excess ⟨rfl, rfl⟩ (fun _ => ⟨_, rfl⟩) (by decide) (by decide)
      (Source.picks_smmuV3.finds holds.entries) (Record.areReadable (by decide) _) _
  · exact Category.IsOf.steady_excess ⟨rfl, rfl⟩ (fun _ => ⟨_, rfl⟩) (by decide) (by decide)
      (Source.picks_pmcg.finds holds.entries) (Record.areReadable (by decide) _) _

theorem kinds_eq (holds : HoldsTable platforms configuration tables sources) :
    (Inventory.ofSources sources).sources.map (fun source => source.kind.number) =
      (tableNodes platforms).map fun labelled => labelled.2.kind.number := by
  have same : List.Forall₂ Eq
      ((Inventory.ofSources sources).sources.map fun source => source.kind.number)
      ((tableNodes platforms).map fun labelled => labelled.2.kind.number) := by
    rw [List.forall₂_map_left_iff, List.forall₂_map_right_iff]
    refine holds.realized.flip.imp ?_
    rintro source labelled ⟨tokens, _, realizes⟩
    rw [realizes.kind_eq]
  rw [← List.forall₂_eq_eq_eq]
  exact same

/-- **The table is refused** over a parameter only. -/
theorem refused (holds : HoldsTable platforms configuration tables sources)
    (vendor : HasVendor configuration.store) {request : TableRequest} {error : TableError}
    (failed : (Iort.kind.build request configuration.store.view).result = .error error) :
    error.IsRefusal Iort.kind.toProfile request := by
  refine TableKind.build_refused Iort.isRegular vendor holds.isSteady ?_ ?_ failed
  · intro plan planned place inside
    obtain ⟨inventory, listed, fits⟩ := Iort.plan_eq_ok.mp planned
    obtain rfl := listed.eq_ofSources holds.entries holds.readable
    have member : place.node ∈ plan.placed.map Placed.node := List.mem_map_of_mem inside
    rw [fits.nodes_eq] at member
    obtain ⟨source, among, same⟩ := List.mem_map.mp member
    rw [← same, source.image_eq]
    exact (Iort.exists_parts fits rfl (fits.short among)).mpr (holds.complete source among)
  · intro plan planned
    obtain ⟨inventory, _, fits⟩ := Iort.plan_eq_ok.mp planned
    exact ⟨_, Iort.fields_eq fits⟩

/-- **Every reference by name leads to the node with this name** in the same description. -/
theorem hasReferences (holds : HoldsTable platforms configuration tables sources)
    {request : TableRequest} {table : Table}
    (built : (Iort.kind.build request configuration.store.view).result = .ok table) :
    HasReferences platforms configuration.store table.bytes := by
  obtain ⟨_, info, inventory, plan, images, _, listed, fits, drawn, bytes⟩ :=
    Iort.build_eq_ok.mp built
  obtain rfl := listed.eq_ofSources holds.entries holds.readable
  have start := Iort.isRegular.length_front request info (Iort.fields_eq fits)
  have walked := Iort.walk_mets fits drawn start
  have linked := Iort.isLinked fits rfl drawn start
  have stands := @Iort.slice?_parts _ _ _ _ _ fits drawn start
  rw [← bytes] at walked linked stands
  refine ⟨_, walked, ?_, ?_⟩
  · have types : (Iort.mets _ plan).map Met.type =
        (Inventory.ofSources sources).sources.map fun source => source.kind.number :=
      Iort.map_mets fits fun _ _ => rfl
    rw [types, holds.kinds_eq]
  · intro position number node met here there
    obtain ⟨source, known, tokens, own, realizes⟩ := getElem?_of_forall₂ holds.realized here
    obtain ⟨image, made, stands⟩ := stands known there
    obtain ⟨count, first⟩ := Iort.read_header made
    refine ⟨⟨tokens, source, _, image, realizes, made, stands⟩, ?_, ?_, ?_⟩
    · rw [Bytes.read32?_slice stands count, Option.map_some, realizes.mapsTo.toNat_eq]
    · intro item mapping inside
      obtain ⟨records, record, listed, member, gives, below, named⟩ :=
        realizes.mapsTo.exists_record inside
      have counted : source.mappingCount ≠ 0 := by
        intro none
        rw [none] at below
        exact Nat.not_lt_zero _ below
      obtain ⟨others, again, each⟩ := linked.mappings position source met known there counted named
      cases listed.symm.trans again
      obtain ⟨other, same, points⟩ := each item below
      cases member.symm.trans same
      have short : source.mappingsAt ≤ 65535 := by
        have bound := fits.short (List.mem_of_getElem? known)
        unfold Source.length at bound
        omega
      refine ⟨source.mappingsAt, ?_, points.leadsTo holds.tokens holds.realized own gives.1⟩
      rw [Bytes.read32?_slice stands first, Option.map_some, Source.stated_eq counted,
        UInt32.toNat_ofNat', Nat.mod_eq_of_lt (by omega)]
    · intro name refers
      cases realizes with
      | pmcg _ _ monitored =>
        cases refers
        have points := linked.counters position _ met known there
        exact points.leadsTo holds.tokens holds.realized own monitored
      | itsGroup | namedComponent | rootComplex | smmuV1V2 | smmuV3 => cases refers

end HoldsTable

end FirmwareTables
