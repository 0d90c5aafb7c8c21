/-
**Consistent descriptions are accepted, and no others.**

A description is consistent (`Platform.IsConsistent`) if its section about the vendor is sound, its
nodes, of whatever kind, have names, all different, and every id mapping goes to a node and every
group of counters monitors one. Of any other description the first thing that is wrong is told
(`Platform.IsFirstFault`): first the section about the vendor, then the nodes in their order, then
what mappings and then counters refer to.

* `VendorSection.exists_toInfo`, `VendorSection.toInfo_eq_error`: the section about the vendor;
* `checkNames_eq_error`, `checkReferences_eq_error`: the first name that is wrong;
* `validate_decides`: the description as a whole.
-/

import FirmwareTables.Platform.Validation
import FirmwareTables.Proofs.Identifier.Revision
import FirmwareTables.Proofs.Platform.Nodes

namespace FirmwareTables

/-! ### The section about the vendor -/

/-- A text is a vendor's id: at most six bytes, all of them ASCII. -/
def OemId.Fits (text : String) : Prop :=
  (∀ one ∈ text.toList, one.toNat < 128) ∧ (Utf8.encode text).length ≤ 6

/-- **The texts that fit** are padded to six bytes, and no others. -/
theorem OemId.exists_ofText? {text : String} : (∃ id, ofText? text = some id) ↔ Fits text := by
  have ascii : (Utf8.encode text).all (· < 0x80) = true ↔ ∀ one ∈ text.toList, one.toNat < 128 := by
    rw [← Utf8.ascii_iff, List.all_eq_true]
    simp only [decide_eq_true_iff]
  have six : (Utf8.encode text ++ List.replicate (6 - (Utf8.encode text).length) 0x20).length = 6 ↔
      (Utf8.encode text).length ≤ 6 := by
    rw [List.length_append, List.length_replicate]
    omega
  unfold ofText? ofBytes? Fits
  dsimp only
  rw [← ascii]
  by_cases narrow : (Utf8.encode text).all (· < 0x80) = true
  · rw [if_pos narrow, and_iff_right narrow]
    by_cases short : (Utf8.encode text).length ≤ 6
    · rw [dif_pos (six.mpr short)]
      exact iff_of_true ⟨_, rfl⟩ short
    · rw [dif_neg (mt six.mp short)]
      exact iff_of_false nofun short
  · rw [if_neg narrow]
    exact iff_of_false nofun fun both => narrow both.1

namespace VendorSection

variable {vendor : VendorSection}

/-- The section about the vendor is sound. -/
structure IsSound (vendor : VendorSection) : Prop where
  /-- The id of the vendor fits. -/
  oemId : OemId.Fits vendor.oemId
  /-- The revision is two numbers of sixteen bits. -/
  revision : ∃ major minor, Revision.Spells vendor.revision major minor

/-- What is wrong with the section about the vendor. -/
inductive IsFault (vendor : VendorSection) : PlatformError → Prop where
  /-- The id of the vendor does not fit. -/
  | oemId (wrong : ¬ OemId.Fits vendor.oemId) : IsFault vendor (.invalid (.oemId vendor.oemId))
  /-- The id fits, but the revision is none. -/
  | revision (fits : OemId.Fits vendor.oemId)
      (wrong : ∀ major minor, ¬ Revision.Spells vendor.revision major minor) :
      IsFault vendor (.invalid (.revision (.revision vendor.revision)))

theorem exists_toInfo : (∃ info, vendor.toInfo = .ok info) ↔ vendor.IsSound := by
  unfold toInfo
  constructor
  · rintro ⟨info, done⟩
    split at done
    · cases done
    rename_i oemId fits
    split at done
    · cases done
    rename_i revision read
    obtain ⟨major, minor, spells, _⟩ := Revision.read_eq_ok.mp read
    exact ⟨OemId.exists_ofText?.mp ⟨oemId, fits⟩, major, minor, spells⟩
  · rintro ⟨fits, major, minor, spells⟩
    obtain ⟨oemId, padded⟩ := OemId.exists_ofText?.mpr fits
    rw [padded, Revision.read_eq_ok.mpr ⟨major, minor, spells, rfl⟩]
    exact ⟨_, rfl⟩

theorem toInfo_eq_error {error : PlatformError} :
    vendor.toInfo = .error error ↔ vendor.IsFault error := by
  unfold toInfo
  constructor
  · intro failed
    split at failed
    · rename_i unfit
      cases failed
      refine .oemId fun fits => ?_
      obtain ⟨oemId, padded⟩ := OemId.exists_ofText?.mpr fits
      cases unfit.symm.trans padded
    rename_i oemId fits
    split at failed
    · rename_i cause refused
      cases failed
      obtain ⟨wrong, rfl⟩ := Revision.read_eq_error.mp refused
      exact .revision (OemId.exists_ofText?.mp ⟨oemId, fits⟩) wrong
    · cases failed
  · rintro (wrong | ⟨fits, wrong⟩)
    · cases padded : OemId.ofText? vendor.oemId with
      | none => rfl
      | some oemId => exact absurd (OemId.exists_ofText?.mp ⟨oemId, padded⟩) wrong
    · obtain ⟨oemId, padded⟩ := OemId.exists_ofText?.mpr fits
      rw [padded, Revision.read_eq_error.mpr ⟨wrong, rfl⟩]

end VendorSection

namespace Platform

/-! ### Names and references -/

/-- What is wrong with a name, given those that were seen before it. -/
inductive IsNameFault (seen : List String) (name : String) : PlatformError → Prop where
  /-- The name is blank. -/
  | unnamed (blank : name = "") : IsNameFault seen name (.invalid .unnamed)
  /-- The name was seen before. -/
  | taken (some : name ≠ "") (known : name ∈ seen) : IsNameFault seen name (.duplicateName name)

section

variable {seen names : List String} {name : String} {error : PlatformError}

theorem checkNames_cons : checkNames seen (name :: names) =
    checkNames seen [name] >>= fun _ => checkNames (name :: seen) names := by
  simp only [checkNames]
  by_cases blank : name.isEmpty = true
  · rw [if_pos blank, if_pos blank]
    rfl
  rw [if_neg blank, if_neg blank]
  by_cases known : seen.contains name = true
  · rw [if_pos known, if_pos known]
    rfl
  · rw [if_neg known, if_neg known]
    rfl

theorem checkName_eq_ok : checkNames seen [name] = .ok () ↔ name ≠ "" ∧ name ∉ seen := by
  simp only [checkNames]
  by_cases blank : name = ""
  · rw [if_pos (String.isEmpty_iff.mpr blank)]
    exact iff_of_false nofun fun fine => fine.1 blank
  rw [if_neg (mt String.isEmpty_iff.mp blank), and_iff_right blank]
  by_cases known : name ∈ seen
  · rw [if_pos (List.contains_iff_mem.mpr known)]
    exact iff_of_false nofun (not_not_intro known)
  · rw [if_neg (mt List.contains_iff_mem.mp known)]
    exact iff_of_true rfl known

theorem checkName_eq_error :
    checkNames seen [name] = .error error ↔ IsNameFault seen name error := by
  simp only [checkNames]
  constructor
  · intro failed
    split at failed
    · rename_i blank
      cases failed
      exact .unnamed (String.isEmpty_iff.mp blank)
    rename_i some
    split at failed
    · rename_i known
      cases failed
      exact .taken (mt String.isEmpty_iff.mpr some) (List.contains_iff_mem.mp known)
    · cases failed
  · rintro (blank | ⟨some, known⟩)
    · rw [if_pos (String.isEmpty_iff.mpr blank)]
    · rw [if_neg (mt String.isEmpty_iff.mp some), if_pos (List.contains_iff_mem.mpr known)]

/-- **Names pass** if none is blank and all are different, also from those seen before. -/
theorem checkNames_eq_ok : checkNames seen names = .ok () ↔
    (∀ name ∈ names, name ≠ "" ∧ name ∉ seen) ∧ names.Nodup := by
  induction names generalizing seen with
  | nil => exact iff_of_true rfl ⟨List.forall_mem_nil _, List.nodup_nil⟩
  | cons first names ih =>
    rw [checkNames_cons, bind_eq_ok, List.forall_mem_cons, List.nodup_cons]
    constructor
    · rintro ⟨_, here, rest⟩
      obtain ⟨fresh, distinct⟩ := ih.mp rest
      refine ⟨⟨checkName_eq_ok.mp here, fun name inside => ?_⟩, fun inside => ?_, distinct⟩
      · obtain ⟨some, unseen⟩ := fresh name inside
        exact ⟨some, fun known => unseen (List.mem_cons_of_mem _ known)⟩
      · exact (fresh first inside).2 List.mem_cons_self
    · rintro ⟨⟨here, fresh⟩, new, distinct⟩
      refine ⟨(), checkName_eq_ok.mpr here, ih.mpr ⟨fun name inside => ?_, distinct⟩⟩
      obtain ⟨some, unseen⟩ := fresh name inside
      refine ⟨some, fun known => ?_⟩
      rcases List.mem_cons.mp known with rfl | known
      · exact new inside
      · exact unseen known

/-- **Names fail** over the first of them that does not pass. -/
theorem checkNames_eq_error : checkNames seen names = .error error ↔ ∃ before name behind,
    names = before ++ name :: behind ∧ checkNames seen before = .ok () ∧
      IsNameFault (before.reverse ++ seen) name error := by
  induction names generalizing seen with
  | nil =>
    refine iff_of_false nofun ?_
    rintro ⟨before, name, behind, split, _⟩
    exact absurd split.symm (List.append_ne_nil_of_right_ne_nil _ (List.cons_ne_nil _ _))
  | cons first names ih =>
    have shift (before : List String) :
        (first :: before).reverse ++ seen = before.reverse ++ first :: seen := by
      rw [List.reverse_cons, List.append_assoc, List.singleton_append]
    rw [checkNames_cons, bind_eq_error, checkName_eq_error, ih]
    constructor
    · rintro (fault | ⟨_, here, before, name, behind, rfl, passed, fault⟩)
      · exact ⟨[], first, names, rfl, rfl, fault⟩
      · refine ⟨first :: before, name, behind, rfl, ?_, by rwa [shift]⟩
        rw [checkNames_cons]
        exact bind_eq_ok.mpr ⟨(), here, passed⟩
    · rintro ⟨before, name, behind, split, passed, fault⟩
      cases before with
      | nil =>
        cases split
        exact .inl fault
      | cons _ before =>
        cases split
        rw [checkNames_cons] at passed
        obtain ⟨_, here, passed⟩ := bind_eq_ok.mp passed
        exact .inr ⟨(), here, before, name, behind, rfl, passed, by rwa [shift] at fault⟩

variable {references : List String}

/-- **References pass** if they are names. -/
theorem checkReferences_eq_ok :
    checkReferences names references = .ok () ↔ ∀ reference ∈ references, reference ∈ names := by
  induction references with
  | nil => exact iff_of_true rfl (List.forall_mem_nil _)
  | cons reference references ih =>
    unfold checkReferences
    rw [List.forall_mem_cons]
    by_cases known : reference ∈ names
    · rw [if_pos (List.contains_iff_mem.mpr known), ih, and_iff_right known]
    · rw [if_neg (mt List.contains_iff_mem.mp known)]
      exact iff_of_false nofun fun both => known both.1

/-- **References fail** over the first of them that is no name. -/
theorem checkReferences_eq_error : checkReferences names references = .error error ↔
    ∃ before reference behind, references = before ++ reference :: behind ∧
      (∀ earlier ∈ before, earlier ∈ names) ∧ reference ∉ names ∧
        error = .unknownReference reference := by
  induction references with
  | nil =>
    refine iff_of_false nofun ?_
    rintro ⟨before, reference, behind, split, _⟩
    exact absurd split.symm (List.append_ne_nil_of_right_ne_nil _ (List.cons_ne_nil _ _))
  | cons first references ih =>
    unfold checkReferences
    by_cases known : first ∈ names
    · rw [if_pos (List.contains_iff_mem.mpr known), ih]
      constructor
      · rintro ⟨before, reference, behind, rfl, passed, unknown⟩
        exact ⟨first :: before, reference, behind, rfl,
          List.forall_mem_cons.mpr ⟨known, passed⟩, unknown⟩
      · rintro ⟨before, reference, behind, split, passed, unknown⟩
        cases before with
        | nil =>
          cases split
          exact absurd known unknown.1
        | cons _ before =>
          cases split
          exact ⟨before, reference, behind, rfl, (List.forall_mem_cons.mp passed).2, unknown⟩
    · rw [if_neg (mt List.contains_iff_mem.mp known)]
      constructor
      · rintro ⟨⟩
        exact ⟨[], first, references, rfl, List.forall_mem_nil _, known, rfl⟩
      · rintro ⟨before, reference, behind, split, passed, unknown, rfl⟩
        cases before with
        | nil =>
          cases split
          rfl
        | cons _ before =>
          cases split
          exact absurd (passed first List.mem_cons_self) known

end

end Platform

/-- Nodes have names, all different. -/
structure NodeSection.AreNamed (nodes : List NodeSection) : Prop where
  /-- No name is blank. -/
  named : ∀ node ∈ nodes, node.name ≠ ""
  /-- No two nodes share a name, of whatever kinds they are. -/
  distinct : nodes.Pairwise fun one other => one.name ≠ other.name

theorem NodeSection.areNamed_iff {nodes : List NodeSection} :
    Platform.checkNames [] (nodes.map name) = .ok () ↔ AreNamed nodes := by
  rw [Platform.checkNames_eq_ok, List.forall_mem_map, List.Nodup, List.pairwise_map]
  constructor
  · rintro ⟨fresh, distinct⟩
    exact ⟨fun node inside => (fresh node inside).1, distinct⟩
  · rintro ⟨named, distinct⟩
    exact ⟨fun node inside => ⟨named node inside, List.not_mem_nil⟩, distinct⟩

/-! ### Descriptions -/

namespace Platform

/-- Some node has a name. -/
def Declares (platform : Platform) (name : String) : Prop :=
  ∃ node ∈ platform.nodes, node.name = name

/-- The names of the nodes that mappings go to, and then of those that counters monitor, in the
order of the nodes. -/
def mentions (platform : Platform) : List String :=
  platform.nodes.flatMap (fun node => node.mappings.map (·.output)) ++
    platform.nodes.filterMap NodeSection.reference?

/-- A description is consistent. -/
structure IsConsistent (platform : Platform) : Prop where
  /-- The section about the vendor is sound. -/
  vendor : platform.vendor.IsSound
  /-- The nodes have names, all different. -/
  nodes : NodeSection.AreNamed platform.nodes
  /-- Every mapping of a node goes to a node. -/
  mapped : ∀ node ∈ platform.nodes, ∀ mapping ∈ node.mappings, platform.Declares mapping.output
  /-- Every group of counters monitors a node. -/
  monitored : ∀ node ∈ platform.nodes, ∀ name, node.reference? = some name →
    platform.Declares name

/-- The first thing that is wrong with a description. -/
inductive IsFirstFault (platform : Platform) : PlatformError → Prop where
  /-- The section about the vendor is not sound. -/
  | vendor {error : PlatformError} (fault : platform.vendor.IsFault error) :
      IsFirstFault platform error
  /-- A node has no name. -/
  | unnamed {before behind : List NodeSection} {node : NodeSection}
      (sound : platform.vendor.IsSound) (split : platform.nodes = before ++ node :: behind)
      (passed : NodeSection.AreNamed before) (blank : node.name = "") :
      IsFirstFault platform (.invalid .unnamed)
  /-- A node has the name of a node before it. -/
  | taken {before behind : List NodeSection} {node earlier : NodeSection}
      (sound : platform.vendor.IsSound) (split : platform.nodes = before ++ node :: behind)
      (passed : NodeSection.AreNamed before) (inside : earlier ∈ before)
      (same : earlier.name = node.name) : IsFirstFault platform (.duplicateName node.name)
  /-- What is referred to is no node. -/
  | dangling {before behind : List String} {name : String} (sound : platform.vendor.IsSound)
      (named : NodeSection.AreNamed platform.nodes)
      (split : platform.mentions = before ++ name :: behind)
      (passed : ∀ earlier ∈ before, platform.Declares earlier)
      (unknown : ¬ platform.Declares name) : IsFirstFault platform (.unknownReference name)

variable {platform : Platform} {error : PlatformError}

theorem mem_nodeNames {name : String} : name ∈ platform.nodeNames ↔ platform.Declares name := by
  rw [← platform.nodes_names, List.mem_map]
  rfl

theorem mentions_eq (platform : Platform) : platform.mentions = platform.references := by
  unfold mentions references
  rw [platform.nodes_references, ← platform.nodes_mappings, List.map_flatMap]

theorem areNamed_nodes :
    checkNames [] platform.nodeNames = .ok () ↔ NodeSection.AreNamed platform.nodes := by
  rw [← platform.nodes_names, NodeSection.areNamed_iff]

/-- **What is wrong with the names** of nodes. -/
theorem checkNames_nodes_eq_error (sound : platform.vendor.IsSound)
    (failed : checkNames [] platform.nodeNames = .error error) : platform.IsFirstFault error := by
  rw [← platform.nodes_names, checkNames_eq_error] at failed
  obtain ⟨before, name, behind, split, passed, fault⟩ := failed
  obtain ⟨front, others, nodes, rfl, rest⟩ := List.map_eq_append_iff.mp split
  obtain ⟨node, back, rfl, rfl, rfl⟩ := List.map_eq_cons_iff.mp rest
  have apart := NodeSection.areNamed_iff.mp passed
  cases fault with
  | unnamed blank => exact .unnamed sound nodes apart blank
  | taken some known =>
    rw [List.append_nil, List.mem_reverse] at known
    obtain ⟨earlier, inside, same⟩ := List.mem_map.mp known
    exact .taken sound nodes apart inside same

/-- **The first name** that is wrong is the one that is refused. -/
theorem checkNames_of_fault {before behind : List NodeSection} {node : NodeSection}
    (split : platform.nodes = before ++ node :: behind) (passed : NodeSection.AreNamed before)
    (fault : IsNameFault (before.map NodeSection.name).reverse node.name error) :
    checkNames [] platform.nodeNames = .error error := by
  rw [← platform.nodes_names, split, List.map_append, List.map_cons]
  refine checkNames_eq_error.mpr ⟨_, _, _, rfl, NodeSection.areNamed_iff.mpr passed, ?_⟩
  rwa [List.append_nil]

theorem isConsistent_iff : platform.IsConsistent ↔ platform.vendor.IsSound ∧
    NodeSection.AreNamed platform.nodes ∧ ∀ name ∈ platform.mentions, platform.Declares name := by
  unfold mentions
  rw [List.forall_mem_append]
  constructor
  · rintro ⟨vendor, nodes, mapped, monitored⟩
    refine ⟨vendor, nodes, fun name inside => ?_, fun name inside => ?_⟩
    · obtain ⟨node, member, there⟩ := List.mem_flatMap.mp inside
      obtain ⟨mapping, among, rfl⟩ := List.mem_map.mp there
      exact mapped node member mapping among
    · obtain ⟨node, member, here⟩ := List.mem_filterMap.mp inside
      exact monitored node member name here
  · rintro ⟨vendor, nodes, outputs, references⟩
    refine ⟨vendor, nodes, fun node member mapping among => ?_, fun node member name here => ?_⟩
    · exact outputs _ (List.mem_flatMap.mpr ⟨node, member, List.mem_map_of_mem among⟩)
    · exact references name (List.mem_filterMap.mpr ⟨node, member, here⟩)

/-- **Validation accepts exactly the consistent descriptions**, and tells the first thing that is
wrong with any other. -/
theorem validate_decides (platform : Platform) :
    (platform.validate = .ok () ↔ platform.IsConsistent) ∧
      ∀ error, platform.validate = .error error ↔ platform.IsFirstFault error := by
  have declared {names : List String} : (∀ name ∈ names, name ∈ platform.nodeNames) ↔
      ∀ name ∈ names, platform.Declares name :=
    forall₂_congr fun _ _ => mem_nodeNames
  unfold validate
  rw [← platform.mentions_eq]
  refine ⟨?_, fun error => ?_⟩
  · rw [isConsistent_iff, bind_eq_ok]
    constructor
    · rintro ⟨info, made, done⟩
      obtain ⟨_, names, references⟩ := bind_eq_ok.mp done
      exact ⟨VendorSection.exists_toInfo.mp ⟨info, made⟩, areNamed_nodes.mp names,
        declared.mp (checkReferences_eq_ok.mp references)⟩
    · rintro ⟨sound, named, known⟩
      obtain ⟨info, made⟩ := VendorSection.exists_toInfo.mpr sound
      exact ⟨info, made, bind_eq_ok.mpr ⟨(), areNamed_nodes.mpr named,
        checkReferences_eq_ok.mpr (declared.mpr known)⟩⟩
  · rw [bind_eq_error, VendorSection.toInfo_eq_error]
    simp only [bind_eq_error]
    constructor
    · rintro (fault | ⟨info, made, names | ⟨_, names, references⟩⟩)
      · exact .vendor fault
      · exact checkNames_nodes_eq_error (VendorSection.exists_toInfo.mp ⟨info, made⟩) names
      · obtain ⟨before, name, behind, split, passed, unknown, rfl⟩ :=
          checkReferences_eq_error.mp references
        exact .dangling (VendorSection.exists_toInfo.mp ⟨info, made⟩) (areNamed_nodes.mp names)
          split (declared.mp passed) (mt mem_nodeNames.mpr unknown)
    · intro fault
      cases fault with
      | vendor fault => exact .inl fault
      | unnamed sound split passed blank =>
        obtain ⟨info, made⟩ := VendorSection.exists_toInfo.mpr sound
        exact .inr ⟨info, made, .inl (checkNames_of_fault split passed (.unnamed blank))⟩
      | taken sound split passed inside same =>
        obtain ⟨info, made⟩ := VendorSection.exists_toInfo.mpr sound
        have some := same ▸ passed.named _ inside
        have known := List.mem_reverse.mpr (List.mem_map.mpr ⟨_, inside, same⟩)
        exact .inr ⟨info, made, .inl (checkNames_of_fault split passed (.taken some known))⟩
      | dangling sound named split passed unknown =>
        obtain ⟨info, made⟩ := VendorSection.exists_toInfo.mpr sound
        refine .inr ⟨info, made, .inr ⟨(), areNamed_nodes.mpr named, ?_⟩⟩
        exact checkReferences_eq_error.mpr ⟨_, _, _, split, declared.mpr passed,
          mt mem_nodeNames.mp unknown, rfl⟩

/-- **What follows for a description that is accepted**: its names are different, and it refers to
these only. -/
theorem validate_eq_ok (done : platform.validate = .ok ()) :
    platform.nodeNames.Nodup ∧ platform.references ⊆ platform.nodeNames := by
  unfold validate at done
  obtain ⟨_, _, done⟩ := bind_eq_ok.mp done
  obtain ⟨_, names, references⟩ := bind_eq_ok.mp done
  exact ⟨(checkNames_eq_ok.mp names).2, checkReferences_eq_ok.mp references⟩

end Platform

end FirmwareTables
