/-
**The nodes of descriptions in a store.**

A store `HoldsNodes` if the entries of nodes are those of records that realize sections, each with
the tokens of its own description. Every token belongs to one name of one description (`AreApart`),
as tokens for names are new ones, so that no node touches another.

* `issue_does`: the tokens of a description's names belong to no earlier description;
* `issue_yields`: they are reserved for its nodes;
* `addNodes_does`: the nodes of a description are stored behind those of the earlier ones.
-/

import FirmwareTables.Proofs.Platform.Nodes

namespace FirmwareTables

open Iort (Source)
open Population (Does Yields)

/-! ### Tables of names -/

/-- Every token in the tables belongs to one name of one table. -/
def AreApart (tables : List NodeTokens) : Prop :=
  ∀ (first second : Nat) (one other : NodeTokens) (name label : String) (token : Token),
    tables[first]? = some one → tables[second]? = some other → (name, token) ∈ one →
      (label, token) ∈ other → first = second ∧ name = label

/-- The tokens of the tables are issued, each for one name of one table. -/
structure HasTokens (tables : List NodeTokens) (configuration : Configuration) : Prop where
  /-- No token is in two places. -/
  apart : AreApart tables
  /-- All tokens are issued. -/
  issued : ∀ tokens ∈ tables, ∀ entry ∈ tokens,
    configuration.HasIssued entry.2 ∧ entry.2.isNull = false

theorem HasTokens.stable (ids : List ObjectId) (tables : List NodeTokens) :
    Stable ids (HasTokens tables) := by
  intro before after grows has
  refine ⟨has.apart, fun tokens inside entry member => ?_⟩
  obtain ⟨issued, named⟩ := has.issued tokens inside entry member
  exact ⟨Stable.hasIssued ids entry.2 before after grows issued, named⟩

/-- The tokens issued for names, `start` others being issued before. -/
def numbered (start : Nat) (names : List String) : NodeTokens :=
  (names.zipIdx start).map fun entry => (entry.1, .next entry.2)

theorem mem_numbered {start : Nat} {names : List String} {name : String} {token : Token}
    (inside : (name, token) ∈ numbered start names) :
    ∃ number, start ≤ number ∧ number < start + names.length ∧ token = .next number ∧
      names[number - start]? = some name := by
  obtain ⟨⟨label, number⟩, member, same⟩ := List.mem_map.mp inside
  cases same
  obtain ⟨least, most, here⟩ := List.mem_zipIdx member
  exact ⟨number, least, most, rfl, by rw [here]; exact List.getElem?_eq_getElem _⟩

theorem names_numbered (start : Nat) (names : List String) :
    (numbered start names).map Prod.fst = names := by
  unfold numbered
  rw [List.map_map]
  exact List.zipIdx_map_fst start names

theorem issue_eq (names : List String) (configuration : Configuration) :
    NodeTokens.issue names configuration =
      (.ok (numbered configuration.issued names),
        { configuration with issued := configuration.issued + names.length }) := by
  unfold NodeTokens.issue
  induction names generalizing configuration with
  | nil => rfl
  | cons name names ih =>
    have behind := ih { configuration with issued := configuration.issued + 1 }
    have one : (do return (name, ← Population.newToken) : Population (String × Token))
        configuration = (.ok (name, .next configuration.issued),
          { configuration with issued := configuration.issued + 1 }) := rfl
    have count : configuration.issued + 1 + names.length =
        configuration.issued + (names.length + 1) := by omega
    rw [List.mapM_cons, Population.bind_eq, one]
    dsimp only
    rw [Population.bind_eq, behind]
    dsimp only
    rw [count]
    rfl

theorem getElem?_append_singleton {α : Type} {items : List α} {last item : α} {number : Nat}
    (here : (items ++ [last])[number]? = some item) :
    items[number]? = some item ∨ number = items.length ∧ item = last := by
  by_cases inside : number < items.length
  · rw [List.getElem?_append_left inside] at here
    exact .inl here
  · have least := Nat.le_of_not_lt inside
    rw [List.getElem?_append_right least] at here
    have zero : number - items.length = 0 := by
      have := (List.getElem?_eq_some_iff.mp here).1
      exact Nat.lt_one_iff.mp this
    rw [zero] at here
    exact .inr ⟨by omega, (Option.some.inj here).symm⟩

/-- One token is for one name only. -/
theorem eq_of_mem_numbered {start : Nat} {names : List String}
    (small : start + names.length < UInt64.size) {name label : String} {token : Token}
    (one : (name, token) ∈ numbered start names) (other : (label, token) ∈ numbered start names) :
    name = label := by
  obtain ⟨number, _, most, same, found⟩ := mem_numbered one
  obtain ⟨late, _, least, known, seen⟩ := mem_numbered other
  have equal := Token.next_injective (Nat.lt_of_le_of_lt most small)
    (Nat.lt_of_le_of_lt least small) (same.symm.trans known)
  subst equal
  exact Option.some.inj (found.symm.trans seen)

/-- A token that was issued before is not among new ones. -/
theorem not_mem_numbered {configuration : Configuration} {names : List String}
    (small : configuration.issued + names.length < UInt64.size) {token : Token}
    (issued : configuration.HasIssued token) (label : String) :
    (label, token) ∉ numbered configuration.issued names := by
  intro inside
  obtain ⟨number, early, known⟩ := issued
  obtain ⟨late, least, most, same, _⟩ := mem_numbered inside
  have equal := Token.next_injective (by omega) (by omega) (known.symm.trans same)
  omega

/-- **Tokens for names** are new ones. -/
theorem issue_does (tables : List NodeTokens) (names : List String) :
    Does [] (HasTokens tables) (NodeTokens.issue names) fun tokens configuration =>
      tokens.map Prod.fst = names ∧ HasTokens (tables ++ [tokens]) configuration := by
  intro before tokens after done
  rw [issue_eq] at done
  cases done
  refine ⟨Nat.le_add_right _ _, fun small issued has => ?_⟩
  have grows : before.Grows [] { before with issued := before.issued + names.length } := by
    refine ⟨Nat.le_add_right _ _, fun _ _ => rfl, fun _ _ _ _ _ => rfl, fun start => ?_⟩
    intro entry inside
    refine (start entry inside).imp id fun ⟨number, least, same⟩ => ?_
    exact ⟨number, Nat.lt_of_lt_of_le least (Nat.le_add_right _ _), same⟩
  have old : ∀ one ∈ tables, ∀ name label token, (name, token) ∈ one →
      (label, token) ∉ numbered before.issued names := by
    intro one inside name label token member
    exact not_mem_numbered small (has.issued one inside (name, token) member).1 label
  refine ⟨grows, names_numbered _ _, ⟨?_, ?_⟩⟩
  · intro first second one other name label token here there member also
    rcases getElem?_append_singleton here with here | ⟨rfl, rfl⟩
    · rcases getElem?_append_singleton there with there | ⟨rfl, rfl⟩
      · exact has.apart first second one other name label token here there member also
      · exact absurd also (old one (List.mem_of_getElem? here) name label token member)
    · rcases getElem?_append_singleton there with there | ⟨rfl, rfl⟩
      · exact absurd member (old other (List.mem_of_getElem? there) label name token also)
      · exact ⟨rfl, eq_of_mem_numbered small member also⟩
  · intro tokens inside entry member
    rcases List.mem_append.mp inside with inside | inside
    · exact (HasTokens.stable [] tables before _ grows has).issued tokens inside entry member
    · rw [List.mem_singleton.mp inside] at member
      obtain ⟨number, _, most, same, _⟩ := @mem_numbered _ _ entry.1 entry.2 member
      rw [same]
      exact ⟨⟨number, most, rfl⟩, Token.isNull_next (Nat.lt_of_le_of_lt most small)⟩

/-- A token is that of a name in some of the tables. -/
def IsNamed (tables : List NodeTokens) (token : Token) : Prop :=
  ∃ tokens ∈ tables, ∃ name, (name, token) ∈ tokens

/-- New tokens for names can be reserved. -/
theorem issue_yields (tables : List NodeTokens) (lots : List Lot) (names : List String) :
    Yields (HasLots (IsNamed tables) lots) (NodeTokens.issue names)
      fun tokens => HasLots (IsNamed (tables ++ [tokens])) lots := by
  intro before tokens after done small issued has
  rw [issue_eq] at done
  cases done
  refine ⟨?_, ?_, has.untagged, has.distinct, has.entries⟩
  · rintro token ⟨tokens, inside, name, named⟩
    rcases List.mem_append.mp inside with inside | inside
    · obtain ⟨⟨number, least, same⟩, some⟩ := has.issued token ⟨tokens, inside, name, named⟩
      exact ⟨⟨number, Nat.lt_of_lt_of_le least (Nat.le_add_right _ _), same⟩, some⟩
    · rw [List.mem_singleton.mp inside] at named
      obtain ⟨number, _, most, same, _⟩ := mem_numbered named
      rw [same]
      exact ⟨⟨number, most, rfl⟩, Token.isNull_next (Nat.lt_of_le_of_lt most small)⟩
  · rintro entry inside ⟨tokens, among, name, named⟩
    rcases List.mem_append.mp among with among | among
    · exact has.nodes entry inside ⟨tokens, among, name, named⟩
    · rw [List.mem_singleton.mp among] at named
      rcases issued entry inside with null | old
      · obtain ⟨number, _, most, same, _⟩ := mem_numbered named
        have some := Token.isNull_next (Nat.lt_of_le_of_lt most small)
        rw [← same, null] at some
        cases some
      · exact absurd named (not_mem_numbered small old name)

/-! ### Nodes -/

/-- A record realizes a section with the tokens of its own description, given by number. -/
def IsRealized (store : Store) (tables : List NodeTokens) (labelled : Nat × NodeSection)
    (source : Source) : Prop :=
  ∃ tokens, tables[labelled.1]? = some tokens ∧ labelled.2.Realizes store tokens source

/-- The entries of nodes are those of records that realize sections, the last in front. -/
structure HoldsNodes (tables : List NodeTokens) (nodes : List (Nat × NodeSection))
    (sources : List Source) (store : Store) : Prop where
  /-- The entries. -/
  entries : store.nodes = (sources.map Source.entry).reverse
  /-- What the records are of. -/
  realized : List.Forall₂ (IsRealized store tables) nodes sources

theorem NodeSection.Realizes.stable (ids : List ObjectId) (tokens : NodeTokens)
    (node : NodeSection) (source : Source) :
    Stable ids fun configuration => node.Realizes configuration.store tokens source := by
  intro before after grows realizes
  have maps := fun mappings count array =>
    MapsTo.stable ids tokens mappings count array before after grows
  have interrupts := fun (items : List SmmuInterrupt) count array =>
    IsStored.stable ids (by decide) items count array before after grows
  have services := fun (items : List ItsIdentifier) count array =>
    IsStored.stable ids (by decide) items count array before after grows
  cases realizes with
  | itsGroup named stored => exact .itsGroup named (services _ _ _ stored)
  | namedComponent named mappings => exact .namedComponent named (maps _ _ _ mappings)
  | rootComplex named mappings => exact .rootComplex named (maps _ _ _ mappings)
  | smmuV1V2 named mappings context pmu =>
    exact .smmuV1V2 named (maps _ _ _ mappings) (interrupts _ _ _ context) (interrupts _ _ _ pmu)
  | smmuV3 named mappings => exact .smmuV3 named (maps _ _ _ mappings)
  | pmcg named mappings monitored => exact .pmcg named (maps _ _ _ mappings) monitored

theorem IsRealized.stable (ids : List ObjectId) (tables : List NodeTokens)
    (nodes : List (Nat × NodeSection)) (sources : List Source) :
    Stable ids fun configuration =>
      List.Forall₂ (IsRealized configuration.store tables) nodes sources := by
  intro before after grows realized
  refine realized.imp fun labelled source ⟨tokens, here, realizes⟩ => ⟨tokens, here, ?_⟩
  exact NodeSection.Realizes.stable ids tokens labelled.2 source before after grows realizes

theorem Configuration.Grows.nodes_eq {ids : List ObjectId} {before after : Configuration}
    (grows : before.Grows ids after) (apart : ∀ id ∈ ids, id ∉ nodeIds) :
    after.store.nodes = before.store.nodes := by
  refine grows.others _ fun entry inside => Bool.eq_false_iff.mpr fun node => ?_
  exact apart entry.id inside (List.contains_iff_mem.mp node)

theorem HoldsNodes.stable {ids : List ObjectId} (apart : ∀ id ∈ ids, id ∉ nodeIds)
    (tables : List NodeTokens) (nodes : List (Nat × NodeSection)) (sources : List Source) :
    Stable ids fun configuration => HoldsNodes tables nodes sources configuration.store := by
  intro before after grows holds
  refine ⟨?_, IsRealized.stable ids tables nodes sources before after grows holds.realized⟩
  rw [grows.nodes_eq apart, holds.entries]

/-- What realizes a section of a description is under no token of another section. -/
theorem HoldsNodes.token_ne {tables : List NodeTokens} (apart : AreApart tables)
    {nodes : List (Nat × NodeSection)} {sources : List Source} {store : Store}
    (holds : HoldsNodes tables nodes sources store) {number : Nat} {tokens : NodeTokens}
    (here : tables[number]? = some tokens) {name : String} {token : Token}
    (named : (name, token) ∈ tokens)
    (unused : ∀ labelled ∈ nodes, labelled.1 = number → labelled.2.name ≠ name) :
    ∀ entry ∈ (sources.map Source.entry).reverse, entry.token ≠ token := by
  intro entry inside same
  obtain ⟨source, member, rfl⟩ := List.mem_map.mp (List.mem_reverse.mp inside)
  obtain ⟨place, known⟩ := List.getElem?_of_mem member
  have bound : place < nodes.length := by
    rw [holds.realized.length_eq]
    exact (List.getElem?_eq_some_iff.mp known).1
  obtain ⟨other, there, realizes⟩ := holds.realized.get bound
    (List.getElem?_eq_some_iff.mp known).1
  have carried := realizes.named
  have exact_source : sources.get ⟨place, (List.getElem?_eq_some_iff.mp known).1⟩ = source :=
    (List.getElem?_eq_some_iff.mp known).2
  rw [exact_source, ← source.token_entry, same] at carried
  obtain ⟨equal, label⟩ := apart _ _ _ _ _ _ _ there here carried named
  exact unused _ (List.get_mem _ _) equal label

/-- Nodes are stored, and they and their arrays are all lots but certain others. -/
def StoresNodes (tables : List NodeTokens) (nodes : List (Nat × NodeSection)) (others : List Lot)
    (configuration : Configuration) : Prop :=
  HasTokens tables configuration ∧
    ∃ sources, HoldsNodes tables nodes sources configuration.store ∧
      HasLots (IsNamed tables) (sources.flatMap Source.lots ++ others) configuration

/-- A node is stored behind those before it, if none of them has its name. -/
theorem addNode_does {tables : List NodeTokens} {number : Nat} {tokens : NodeTokens}
    {nodes : List (Nat × NodeSection)} (others : List Lot) (sources : List Source)
    (node : NodeSection)
    (unused : ∀ labelled ∈ nodes, labelled.1 = number → labelled.2.name ≠ node.name) :
    Does (arrayIds ++ nodeIds)
      (fun configuration => tables[number]? = some tokens ∧ HasTokens tables configuration ∧
        HoldsNodes tables nodes sources configuration.store ∧
          HasLots (IsNamed tables) (sources.flatMap Source.lots ++ others) configuration)
      (node.add tokens)
      fun _ configuration => tables[number]? = some tokens ∧
        StoresNodes tables (nodes ++ [(number, node)]) others configuration := by
  have kept := (Stable.const arrayIds (tables[number]? = some tokens)).and
    ((HasTokens.stable arrayIds tables).and (HoldsNodes.stable (by decide) tables nodes sources))
  refine (node.add_does kept fun source => ?_).weaken
    (fun _ ⟨here, has, holds, lots⟩ => ⟨⟨here, has, holds⟩, lots⟩) fun _ _ => id
  have add := (source.add_does (sources.map Source.entry).reverse).also
    (source.add_yields (IsNamed tables) (source.arrays ++ (sources.flatMap Source.lots ++ others)))
  have stored := add.keep ((NodeSection.Realizes.stable nodeIds tokens node source).and
    ((Stable.const nodeIds (tables[number]? = some tokens)).and
      ((HasTokens.stable nodeIds tables).and (IsRealized.stable nodeIds tables nodes sources))))
  refine (stored.widen (List.subset_append_right arrayIds nodeIds)).weaken ?_ ?_
  · intro configuration ⟨realizes, ⟨here, has, holds⟩, lots⟩
    have named := realizes.named
    have member := List.mem_of_getElem? here
    obtain ⟨issued, some⟩ := has.issued tokens member _ named
    have free := holds.token_ne has.apart here named unused
    refine ⟨⟨⟨issued, some, holds.entries, free⟩, ⟨some, ?_⟩, lots⟩, realizes, here, has,
      holds.realized⟩
    -- Only a node could be under the token, and none of those before is.
    intro entry inside same
    have node := lots.nodes entry inside ⟨tokens, member, node.name, by rw [same]; exact named⟩
    refine free entry ?_ same
    rw [← holds.entries]
    exact List.mem_filter.mpr ⟨inside, List.contains_iff_mem.mpr node⟩
  · intro _ configuration ⟨⟨entries, lots⟩, realizes, here, has, realized⟩
    refine ⟨here, has, sources ++ [source], ⟨?_, ?_⟩, ?_⟩
    · rw [entries, List.map_append, List.reverse_append]
      rfl
    · exact List.rel_append realized (.cons ⟨tokens, here, realizes⟩ .nil)
    · rw [List.flatMap_append, List.flatMap_singleton, List.append_assoc]
      exact lots.perm (@List.perm_append_comm_assoc _ source.lots _ others)

/-- **The nodes of a description are stored**, each realized with the tokens of the names. -/
theorem addNodes_does (platform : Platform) (distinct : platform.nodeNames.Nodup)
    (tables : List NodeTokens) (number : Nat) (tokens : NodeTokens) (others : List Lot)
    {nodes : List (Nat × NodeSection)} (earlier : ∀ labelled ∈ nodes, labelled.1 ≠ number) :
    Does (arrayIds ++ nodeIds)
      (fun configuration => tables[number]? = some tokens ∧
        StoresNodes tables nodes others configuration)
      (platform.addNodes tokens)
      fun _ configuration => tables[number]? = some tokens ∧
        StoresNodes tables (nodes ++ platform.nodes.map (number, ·)) others configuration := by
  rw [platform.addNodes_eq]
  have loop := @Does.forM (arrayIds ++ nodeIds) _ (NodeSection.add tokens) platform.nodes
    fun done _ configuration => tables[number]? = some tokens ∧
      StoresNodes tables (nodes ++ done.map (number, ·)) others configuration
  refine (loop fun done node rest split => ?_).weaken (fun configuration holds => ?_) fun _ _ => id
  · have unused : ∀ labelled ∈ nodes ++ done.map (number, ·), labelled.1 = number →
        labelled.2.name ≠ node.name := by
      intro labelled inside same label
      rcases List.mem_append.mp inside with inside | inside
      · exact earlier labelled inside same
      · obtain ⟨other, member, rfl⟩ := List.mem_map.mp inside
        rw [← platform.nodes_names, split, List.map_append, List.map_cons] at distinct
        have disjoint := (List.nodup_append.mp distinct).2.2
        exact disjoint _ (List.mem_map_of_mem member) _ List.mem_cons_self label
    have add := Does.exists_pre fun sources =>
      @addNode_does tables number tokens _ others sources node unused
    refine add.weaken (fun _ ⟨here, has, sources, holds⟩ => ⟨sources, here, has, holds⟩)
      fun _ _ stored => ?_
    rw [List.map_append, ← List.append_assoc]
    exact stored
  · rw [List.map_nil, List.append_nil]
    exact holds

end FirmwareTables
