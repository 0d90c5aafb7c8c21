/-
**The names of nodes are only labels.**

A description may call its nodes something else (`Platform.relabel`): every node takes its new name,
and so does everything that refers to it. As long as no two names become one and the blank name
stays the only blank one (`IsRelabeling`), the description is accepted or refused as before
(`validate_relabel`), and the same is stored of it, since tokens are issued in the order of the
nodes (`numbered_relabel`) and a new name finds what the old one found (`find_relabel`).

* `NodeSection.add_relabel`: a node of any of the six kinds;
* `addAll_relabel`: a description that is consistent;
* `relabel_likewise`: a description that is applied to a manager.
-/

import FirmwareTables.Proofs.Platform.Applying
import Mathlib.Data.List.Find

namespace FirmwareTables

/-! ### New names -/

section

variable (label : String → String)

/-! The sections with new names, for their nodes and for those that they refer to. -/

def MappingSection.relabel (mapping : MappingSection) : MappingSection :=
  { mapping with output := label mapping.output }

def ItsGroupSection.relabel (group : ItsGroupSection) : ItsGroupSection :=
  { group with name := label group.name }

def NamedComponentSection.relabel (component : NamedComponentSection) : NamedComponentSection :=
  { component with
    name := label component.name
    idMappings := component.idMappings.map (MappingSection.relabel label) }

def RootComplexSection.relabel (complex : RootComplexSection) : RootComplexSection :=
  { complex with
    name := label complex.name
    idMappings := complex.idMappings.map (MappingSection.relabel label) }

def SmmuV1V2Section.relabel (smmu : SmmuV1V2Section) : SmmuV1V2Section :=
  { smmu with
    name := label smmu.name
    idMappings := smmu.idMappings.map (MappingSection.relabel label) }

def SmmuV3Section.relabel (smmu : SmmuV3Section) : SmmuV3Section :=
  { smmu with
    name := label smmu.name
    idMappings := smmu.idMappings.map (MappingSection.relabel label) }

def PmcgSection.relabel (group : PmcgSection) : PmcgSection :=
  { group with
    name := label group.name
    reference := label group.reference
    idMappings := group.idMappings.map (MappingSection.relabel label) }

def NodeSection.relabel : NodeSection → NodeSection
  | itsGroup group => .itsGroup (group.relabel label)
  | namedComponent component => .namedComponent (component.relabel label)
  | rootComplex complex => .rootComplex (complex.relabel label)
  | smmuV1V2 smmu => .smmuV1V2 (smmu.relabel label)
  | smmuV3 smmu => .smmuV3 (smmu.relabel label)
  | pmcg group => .pmcg (group.relabel label)

/-- **The description with new names** for its nodes, wherever the names occur. -/
def Platform.relabel (platform : Platform) : Platform :=
  { platform with
    itsGroups := platform.itsGroups.map (ItsGroupSection.relabel label)
    namedComponents := platform.namedComponents.map (NamedComponentSection.relabel label)
    rootComplexes := platform.rootComplexes.map (RootComplexSection.relabel label)
    smmuV1V2 := platform.smmuV1V2.map (SmmuV1V2Section.relabel label)
    smmuV3 := platform.smmuV3.map (SmmuV3Section.relabel label)
    pmcgs := platform.pmcgs.map (PmcgSection.relabel label) }

/-- The same error, about the new name if it is about the name of a node. -/
def PlatformError.relabel : PlatformError → PlatformError
  | unknownReference name => .unknownReference (label name)
  | duplicateName name => .duplicateName (label name)
  | error => error

/-- The same tokens, for the new names. -/
def NodeTokens.relabel (tokens : NodeTokens) : NodeTokens :=
  tokens.map fun entry => (label entry.1, entry.2)

/-- **New names that tell apart what the old ones told apart**: no two of some names become one, and
none but the blank one becomes blank. -/
structure IsRelabeling (names : List String) : Prop where
  /-- Different names stay different. -/
  injective : ∀ name ∈ names, ∀ other ∈ names, label name = label other → name = other
  /-- The blank name, and no other, becomes blank. -/
  blank : ∀ name ∈ names, label name = "" ↔ name = ""

end

/-- The names that a description declares or refers to. -/
def Platform.labels (platform : Platform) : List String := platform.nodeNames ++ platform.references

/-! ### What is found -/

section

variable {label : String → String} {all : List String}

/-- A name is among others if and only if it is afterwards. -/
theorem IsRelabeling.contains (apart : IsRelabeling label all) {names : List String} {name : String}
    (inside : names ⊆ all) (known : name ∈ all) :
    (names.map label).contains (label name) = names.contains name := by
  rw [Bool.eq_iff_iff, List.contains_iff_mem, List.contains_iff_mem, List.mem_map]
  constructor
  · rintro ⟨other, member, same⟩
    rwa [← apart.injective other (inside member) name known same]
  · intro member
    exact ⟨name, member, rfl⟩

namespace NodeTokens

variable {tokens : NodeTokens} {name : String}

theorem names_relabel (tokens : NodeTokens) (label : String → String) :
    (tokens.relabel label).map Prod.fst = (tokens.map Prod.fst).map label := by
  unfold relabel
  rw [List.map_map, List.map_map]
  rfl

theorem tokenOf_relabel (apart : IsRelabeling label all) (inside : tokens.map Prod.fst ⊆ all)
    (known : name ∈ all) : (tokens.relabel label).tokenOf (label name) = tokens.tokenOf name := by
  have same : ∀ entry ∈ tokens, (label entry.1 == label name) = (entry.1 == name) := by
    intro entry member
    have old := inside (List.mem_map_of_mem member)
    rw [Bool.eq_iff_iff, beq_iff_eq, beq_iff_eq]
    exact ⟨apart.injective entry.1 old name known, congrArg label⟩
  have found : List.find? (fun entry => entry.1 == label name) (tokens.relabel label) =
      (List.find? (fun entry => entry.1 == name) tokens).map
        fun entry => (label entry.1, entry.2) := by
    unfold relabel
    rw [List.find?_map]
    exact congrArg _ (List.find?_congr same)
  unfold tokenOf
  rw [found, Option.map_map]
  rfl

/-- **A new name finds what the old one found.** -/
theorem find_relabel (apart : IsRelabeling label all) (inside : tokens.map Prod.fst ⊆ all)
    (known : name ∈ tokens.map Prod.fst) :
    (tokens.relabel label).find (label name) = tokens.find name := by
  have later : label name ∈ (tokens.relabel label).map Prod.fst := by
    rw [names_relabel]
    exact List.mem_map_of_mem known
  rw [find_eq known, find_eq later, tokenOf_relabel apart inside (inside known)]

end NodeTokens

/-- **Tokens are issued in the order of the nodes**, whatever their names are. -/
theorem numbered_relabel (issued : Nat) (names : List String) :
    numbered issued (names.map label) = (numbered issued names).relabel label := by
  unfold numbered NodeTokens.relabel
  rw [List.zipIdx_map, List.map_map, List.map_map]
  rfl

/-! ### What is stored of a node -/

section

variable {tokens : NodeTokens}

theorem MappingSection.addAll_relabel (apart : IsRelabeling label all)
    (inside : tokens.map Prod.fst ⊆ all) {mappings : List MappingSection}
    (known : ∀ mapping ∈ mappings, mapping.output ∈ tokens.map Prod.fst) :
    addAll (tokens.relabel label) (mappings.map (relabel label)) = addAll tokens mappings := by
  have later : ∀ mapping ∈ mappings.map (relabel label),
      mapping.output ∈ (tokens.relabel label).map Prod.fst := by
    intro mapping member
    obtain ⟨old, there, rfl⟩ := List.mem_map.mp member
    rw [NodeTokens.names_relabel]
    exact List.mem_map_of_mem (known old there)
  have records : (mappings.map (relabel label)).map (record (tokens.relabel label)) =
      mappings.map (record tokens) := by
    rw [List.map_map]
    refine List.map_congr_left fun mapping there => ?_
    have output := NodeTokens.tokenOf_relabel apart inside (inside (known mapping there))
    show record (tokens.relabel label) (mapping.relabel label) = mapping.record tokens
    unfold record relabel
    dsimp only
    rw [output]
  unfold addAll
  rw [mapM_find known, mapM_find later, records]

/-- **Of a node the same is stored**, if it mentions known names only. -/
theorem NodeSection.add_relabel (apart : IsRelabeling label all)
    (inside : tokens.map Prod.fst ⊆ all) {node : NodeSection}
    (known : node.mentioned ⊆ tokens.map Prod.fst) :
    (node.relabel label).add (tokens.relabel label) = node.add tokens := by
  have own := NodeTokens.find_relabel apart inside (known List.mem_cons_self)
  have outputs : ∀ mapping ∈ node.mappings, mapping.output ∈ tokens.map Prod.fst :=
    fun mapping member => known (List.mem_cons_of_mem _
      (List.mem_append_left _ (List.mem_map_of_mem member)))
  have mapped := MappingSection.addAll_relabel apart inside outputs
  cases node with
  | itsGroup group =>
    dsimp only [relabel, add, name, ItsGroupSection.relabel] at own ⊢
    unfold ItsGroupSection.add
    rw [own]
  | namedComponent node | rootComplex node | smmuV1V2 node | smmuV3 node =>
    dsimp only [relabel, add, name, mappings, NamedComponentSection.add, RootComplexSection.add,
      SmmuV1V2Section.add, SmmuV3Section.add, NamedComponentSection.relabel,
      RootComplexSection.relabel, SmmuV1V2Section.relabel, SmmuV3Section.relabel] at own mapped ⊢
    rw [own, mapped]
  | pmcg group =>
    have monitored : group.reference ∈ tokens.map Prod.fst :=
      known (List.mem_append_right (group.name :: _) List.mem_cons_self)
    have reference := NodeTokens.find_relabel apart inside monitored
    dsimp only [relabel, add, name, mappings, PmcgSection.relabel] at own mapped ⊢
    unfold PmcgSection.add
    rw [own, mapped, reference]

end

/-! ### Descriptions -/

namespace NodeSection

theorem name_relabel (node : NodeSection) : (node.relabel label).name = label node.name := by
  cases node <;> rfl

theorem mappings_relabel (node : NodeSection) :
    (node.relabel label).mappings = node.mappings.map (MappingSection.relabel label) := by
  cases node <;> rfl

theorem reference?_relabel (node : NodeSection) :
    (node.relabel label).reference? = node.reference?.map label := by
  cases node <;> rfl

end NodeSection

namespace Platform

variable (platform : Platform)

theorem nodes_relabel :
    (platform.relabel label).nodes = platform.nodes.map (NodeSection.relabel label) := by
  unfold nodes relabel
  simp only [List.map_append, List.map_map]
  rfl

theorem nodeNames_relabel : (platform.relabel label).nodeNames = platform.nodeNames.map label := by
  rw [← nodes_names, ← nodes_names, nodes_relabel, List.map_map, List.map_map]
  exact List.map_congr_left fun node _ => node.name_relabel

theorem references_relabel :
    (platform.relabel label).references = platform.references.map label := by
  have outputs : (platform.relabel label).mappings =
      platform.mappings.map (MappingSection.relabel label) := by
    rw [← nodes_mappings, ← nodes_mappings, nodes_relabel, List.flatMap_map, List.map_flatMap]
    exact congrArg (List.flatMap · platform.nodes) (funext NodeSection.mappings_relabel)
  have monitored : (platform.relabel label).pmcgs.map (·.reference) =
      (platform.pmcgs.map (·.reference)).map label := by
    rw [← nodes_references, ← nodes_references, nodes_relabel, List.filterMap_map,
      List.map_filterMap]
    exact congrArg (List.filterMap · platform.nodes) (funext NodeSection.reference?_relabel)
  unfold references
  rw [outputs, monitored, List.map_append, List.map_map, List.map_map, List.map_map]
  rfl

/-! ### Validation -/

theorem checkNames_relabel (apart : IsRelabeling label all) {seen names : List String}
    (earlier : seen ⊆ all) (inside : names ⊆ all) :
    checkNames (seen.map label) (names.map label) =
      (checkNames seen names).mapError (PlatformError.relabel label) := by
  -- The names seen so far get their new names along with those that are left.
  induction names generalizing seen with
  | nil => rfl
  | cons name names ih =>
    obtain ⟨here, behind⟩ := List.cons_subset.mp inside
    have blank : (label name).isEmpty = name.isEmpty := by
      rw [Bool.eq_iff_iff, String.isEmpty_iff, String.isEmpty_iff]
      exact apart.blank name here
    have rest := ih (List.cons_subset.mpr ⟨here, earlier⟩) behind
    rw [List.map_cons]
    unfold checkNames
    rw [blank, apart.contains earlier here]
    by_cases unnamed : name.isEmpty = true
    · rw [if_pos unnamed, if_pos unnamed]
      rfl
    rw [if_neg unnamed, if_neg unnamed]
    by_cases known : seen.contains name = true
    · rw [if_pos known, if_pos known]
      rfl
    · rw [if_neg known, if_neg known]
      exact rest

theorem checkReferences_relabel (apart : IsRelabeling label all) {names references : List String}
    (declared : names ⊆ all) (inside : references ⊆ all) :
    checkReferences (names.map label) (references.map label) =
      (checkReferences names references).mapError (PlatformError.relabel label) := by
  induction references with
  | nil => rfl
  | cons reference references ih =>
    obtain ⟨here, behind⟩ := List.cons_subset.mp inside
    rw [List.map_cons]
    unfold checkReferences
    rw [apart.contains declared here]
    by_cases known : names.contains reference = true
    · rw [if_pos known, if_pos known]
      exact ih behind
    · rw [if_neg known, if_neg known]
      rfl

variable {platform}

/-- **The same descriptions are accepted**, and the others are refused for the same reason. -/
theorem validate_relabel (apart : IsRelabeling label platform.labels) :
    (platform.relabel label).validate =
      platform.validate.mapError (PlatformError.relabel label) := by
  have declared : platform.nodeNames ⊆ platform.labels := List.subset_append_left _ _
  have mentioned : platform.references ⊆ platform.labels := List.subset_append_right _ _
  have names : checkNames [] (platform.nodeNames.map label) =
      (checkNames [] platform.nodeNames).mapError (PlatformError.relabel label) :=
    checkNames_relabel apart (List.nil_subset _) declared
  have references := checkReferences_relabel apart declared mentioned
  have vendor : (platform.relabel label).vendor = platform.vendor := rfl
  unfold validate
  rw [vendor, nodeNames_relabel, references_relabel, names, references]
  cases made : platform.vendor.toInfo with
  | error error =>
    -- What is wrong with the section about the vendor is not about the name of a node.
    cases VendorSection.toInfo_eq_error.mp made <;> rfl
  | ok info =>
    cases checkNames [] platform.nodeNames <;> rfl

/-! ### Storing -/

/-- The nodes are stored as before, whatever comes behind them. -/
theorem addNodes_relabel (apart : IsRelabeling label platform.labels)
    (consistent : platform.validate = .ok ()) (next : Unit → Population Unit) :
    (NodeTokens.issue (platform.relabel label).nodeNames >>= fun tokens =>
        (platform.relabel label).addNodes tokens >>= next) =
      NodeTokens.issue platform.nodeNames >>= fun tokens => platform.addNodes tokens >>= next := by
  funext configuration
  have names := names_numbered configuration.issued platform.nodeNames
  have inside : (numbered configuration.issued platform.nodeNames).map Prod.fst ⊆
      platform.labels := by
    rw [names]
    exact List.subset_append_left _ _
  have same : (platform.relabel label).addNodes
        ((numbered configuration.issued platform.nodeNames).relabel label) =
      platform.addNodes (numbered configuration.issued platform.nodeNames) := by
    rw [addNodes_eq, addNodes_eq, nodes_relabel, forM_map]
    refine forM_congr fun node member => NodeSection.add_relabel apart inside ?_
    rw [names]
    exact mentioned_subset consistent member
  rw [Population.bind_ok (issue_eq _ _), Population.bind_ok (issue_eq _ _), nodeNames_relabel,
    numbered_relabel, List.length_map, same]

/-- **Of a consistent description the same is stored**, and it fails over the same. -/
theorem addAll_relabel (apart : IsRelabeling label platform.labels)
    (consistent : platform.validate = .ok ()) :
    (platform.relabel label).addAll = platform.addAll := by
  rw [addAll_eq, addAll_eq, addNodes_relabel apart consistent]
  rfl

/-- A description is accepted, refused and stored like another whose nodes have other names. -/
structure IsLikewise (platform renamed : Platform) (label : String → String) : Prop where
  /-- It is accepted if and only if the other is. -/
  accepted : renamed.validate = .ok () ↔ platform.validate = .ok ()
  /-- It is refused for the same reason. -/
  refused : renamed.validate = platform.validate.mapError (PlatformError.relabel label)
  /-- On every manager it succeeds or fails as the other does. -/
  outcome : ∀ {σ : Type} (manager : Manager σ), (renamed.apply manager).1 =
    (platform.apply manager).1.mapError (PlatformError.relabel label)
  /-- It leaves the same manager behind, with the same entries in the same order and the same number
  of tokens issued. -/
  after : ∀ {σ : Type} (manager : Manager σ),
    (renamed.apply manager).2 = (platform.apply manager).2

/-- **Names are only labels**: with new names that tell the nodes apart as the old ones did, a
description is accepted or refused as before, and the same is stored of it. -/
theorem relabel_likewise (platform : Platform) (label : String → String)
    (apart : IsRelabeling label platform.labels) :
    platform.IsLikewise (platform.relabel label) label := by
  have refused := validate_relabel apart
  have populate : ∀ installed configuration,
      (platform.relabel label).populate installed configuration =
        ((platform.populate installed configuration).1.mapError (PlatformError.relabel label),
          (platform.populate installed configuration).2) := by
    intro installed configuration
    unfold populate
    cases installed with
    | false => rfl
    | true =>
      rw [refused]
      cases consistent : platform.validate with
      | error error => rfl
      | ok value =>
        show (platform.relabel label).addAll configuration =
          ((platform.addAll configuration).1.mapError (PlatformError.relabel label),
            (platform.addAll configuration).2)
        rw [addAll_relabel apart consistent]
        -- Only the repository refuses a consistent description.
        cases done : platform.addAll configuration with
        | mk outcome after =>
          cases outcome with
          | ok value => rfl
          | error error =>
            obtain ⟨id, rfl⟩ := addAll_eq_error consistent (congrArg Prod.fst done)
            rfl
  refine ⟨?_, refused, fun manager => ?_, fun manager => ?_⟩
  · rw [refused]
    exact mapError_eq_ok
  · unfold apply
    rw [populate]
  · unfold apply
    rw [populate]

/-- A description with mappings to an earlier and to a later node, and with counters for a node that
is mapped to as well. -/
def crossed : Platform :=
  { (default : Platform) with
    itsGroups := [{ name := "a", itsIds := [0, 1] }]
    namedComponents := [{ (default : NamedComponentSection) with
      name := "c", idMappings := [{ (default : MappingSection) with output := "b" }] }]
    rootComplexes := [{ (default : RootComplexSection) with
      name := "b", idMappings := [{ (default : MappingSection) with output := "a" }] }]
    pmcgs := [{ (default : PmcgSection) with name := "d", reference := "b" }] }

/-- Two names change places. -/
def swapped (name : String) : String := if name = "a" then "b" else if name = "b" then "a" else name

theorem relabel_likewise_crossed :
    IsRelabeling swapped crossed.labels ∧ crossed.relabel swapped ≠ crossed ∧
      (crossed.relabel swapped).validate = .ok () ∧
      ((crossed.relabel swapped).apply (Manager.new ()).install.step.manager).1 = .ok () ∧
      ((crossed.relabel swapped).apply (Manager.new ()).install.step.manager).2 =
        (crossed.apply (Manager.new ()).install.step.manager).2 := by
  have apart : IsRelabeling swapped crossed.labels := ⟨by decide +kernel, by decide +kernel⟩
  have valid : crossed.validate = .ok () := by decide +kernel
  have stored : (crossed.apply (Manager.new ()).install.step.manager).1 = .ok () := by
    decide +kernel
  obtain ⟨accepted, _, outcome, after⟩ := relabel_likewise crossed swapped apart
  refine ⟨apart, by decide +kernel, accepted.mpr valid, ?_, after _⟩
  rw [outcome, stored]
  rfl

end Platform

end

end FirmwareTables
