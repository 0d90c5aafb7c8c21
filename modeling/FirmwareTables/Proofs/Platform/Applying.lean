/-
**Nothing is stored of a description that is refused for what it says.**

Applying a description to a manager (`apply_settles`):

* if the manager is not installed, or the description is not consistent, nothing changes at all;
* otherwise every name that is looked up is found, so that the description is stored as drafted
  (`addAll_after`): the record about the vendor first, and then the deposits one after the other.
  The only thing that can go wrong is a deposit that meets as many instances as can be counted.
-/

import FirmwareTables.Proofs.Platform.Drafts

namespace FirmwareTables

open Population (Follows)

/-! ### How a population that follows a draft ends -/

namespace Population.Follows

variable {α : Type} {action : Population α} {issued : Nat} {draft : Draft α}

/-- It succeeds if and only if there is room for all deposits. -/
theorem ok_iff_hasRoom (follows : Follows action issued draft) (store : Store) :
    (∃ value, (action ⟨store, issued⟩).1 = .ok value) ↔ store.HasRoom draft.deposits := by
  rw [← Store.take_eq_ok_iff]
  cases taken : (store.take draft.deposits).outcome.result with
  | ok value =>
    refine iff_of_true ⟨draft.value, ?_⟩ rfl
    rw [follows.done store taken]
  | error error =>
    obtain ⟨number, stopped⟩ := follows.refused store error taken
    refine iff_of_false ?_ nofun
    rintro ⟨value, done⟩
    rw [stopped] at done
    cases done

/-- If it succeeds, all deposits are taken. -/
theorem eq_of_ok (follows : Follows action issued draft) {store : Store} {value : α}
    {after : Configuration} (done : action ⟨store, issued⟩ = (.ok value, after)) :
    (store.take draft.deposits).outcome.result = .ok () ∧ value = draft.value ∧
      after = ⟨(store.take draft.deposits).store, draft.issued⟩ := by
  have room := (follows.ok_iff_hasRoom store).mp ⟨value, by rw [done]⟩
  have taken := Store.take_eq_ok_iff.mpr room
  rw [follows.done store taken] at done
  obtain ⟨same, rfl⟩ := Prod.mk.inj done
  exact ⟨taken, (Except.ok.inj same).symm, rfl⟩

/-- If it fails, the deposits before the first without room are stored. -/
theorem eq_of_error (follows : Follows action issued draft) {store : Store}
    {error : PlatformError} {after : Configuration}
    (failed : action ⟨store, issued⟩ = (.error error, after)) :
    ∃ before deposit behind, draft.deposits = before ++ deposit :: behind ∧
      store.HasRoom before ∧ maxCount ≤ deposit.met (store.take before).store ∧
      error = .repository (.invalidParameter (.countOverflow deposit.id)) ∧
      after.store = (store.take before).store := by
  cases taken : (store.take draft.deposits).outcome.result with
  | ok value =>
    rw [follows.done store taken] at failed
    cases failed
  | error refused =>
    obtain ⟨number, stopped⟩ := follows.refused store refused taken
    obtain ⟨before, deposit, behind, split, rooms, full, cause, stored⟩ :=
      Store.take_eq_error taken
    rw [stopped] at failed
    obtain ⟨same, rfl⟩ := Prod.mk.inj failed
    rw [cause] at same
    exact ⟨before, deposit, behind, split, rooms, full, (Except.error.inj same).symm, stored⟩

end Population.Follows

/-! ### Consistent descriptions are stored as drafted -/

/-- Lists that take no tokens. -/
theorem Draft.inOrder_plain {ι : Type _} (deposits : ι → List Deposit) (issued : Nat)
    (items : List ι) :
    Draft.inOrder (fun issued item => ⟨(), issued, deposits item⟩) issued items =
      ⟨(), issued, items.flatMap deposits⟩ := by
  induction items with
  | nil => rfl
  | cons item items ih =>
    unfold Draft.inOrder
    dsimp only
    rw [ih, List.flatMap_cons]

theorem Device.add_follows (token : Token) (device : Device) (issued : Nat) :
    Follows (device.add token) issued ⟨device.type, issued, [device.deposit token]⟩ := by
  cases device with
  | acpi handle => exact (Follows.addRecord token handle issued).give fun _ => _
  | pci handle => exact (Follows.addRecord token handle issued).give fun _ => _

theorem InitiatorSection.add_follows (initiator : InitiatorSection) (issued : Nat) :
    Follows initiator.add issued (initiator.draft issued) := by
  have record := Follows.addRecord .null (⟨initiator.proximityDomain, initiator.flags,
    initiator.device.type, .next issued⟩ : GenericInitiator) (issued + 1)
  have device := (initiator.device.add_follows (.next issued) (issued + 1)).bind
    (fun type => Population.addRecord .null (⟨initiator.proximityDomain, initiator.flags, type,
      .next issued⟩ : GenericInitiator)) record
  exact (Follows.newToken issued).bind (fun token => do
    let type ← initiator.device.add token
    Population.addRecord .null (⟨initiator.proximityDomain, initiator.flags, type, token⟩ :
      GenericInitiator)) device

theorem NodeTokens.issue_follows (names : List String) (issued : Nat) :
    Follows (NodeTokens.issue names) issued
      ⟨numbered issued names, issued + names.length, []⟩ :=
  ⟨fun store _ => issue_eq names ⟨store, issued⟩, fun _ _ refused => nomatch refused⟩

namespace Platform

variable {platform : Platform}

/-- **What nodes mention is known** in a consistent description. -/
theorem mentioned_subset (consistent : platform.validate = .ok ()) {node : NodeSection}
    (inside : node ∈ platform.nodes) : node.mentioned ⊆ platform.nodeNames := by
  obtain ⟨_, references⟩ := validate_eq_ok consistent
  refine List.cons_subset.mpr ⟨?_, List.append_subset.mpr ⟨?_, ?_⟩⟩
  · rw [← platform.nodes_names]
    exact List.mem_map_of_mem inside
  · intro name output
    obtain ⟨mapping, member, rfl⟩ := List.mem_map.mp output
    refine references (List.mem_append_left _ (List.mem_map_of_mem ?_))
    rw [← platform.nodes_mappings]
    exact List.mem_flatMap.mpr ⟨node, inside, member⟩
  · intro name monitored
    refine references (List.mem_append_right _ ?_)
    rw [← platform.nodes_references]
    exact List.mem_filterMap.mpr ⟨node, inside, Option.mem_toList.mp monitored⟩

theorem addPlain_follows (platform : Platform) (issued : Nat) :
    Follows (PlainList.all.forM (PlainList.add platform)) issued
      ⟨(), issued, platform.plainDeposits⟩ := by
  have loop := Follows.forM (fun (list : PlainList) (_ : list ∈ PlainList.all) issued =>
    Follows.addRecords .null (list.records platform) issued) issued
  rw [Draft.inOrder_plain] at loop
  exact loop

/-- The nodes are stored, all names being found. -/
theorem addNodes_follows (consistent : platform.validate = .ok ()) (issued : Nat) :
    Follows (NodeTokens.issue platform.nodeNames >>= platform.addNodes) issued
      (platform.nodeDraft issued) := by
  refine (NodeTokens.issue_follows platform.nodeNames issued).bind platform.addNodes ?_
  rw [platform.addNodes_eq]
  refine Follows.forM (fun node inside number => ?_) _
  refine NodeSection.add_follows (fun name mentioned => ?_) number
  rw [names_numbered]
  exact mentioned_subset consistent inside mentioned

/-- **What comes after the record about the vendor** is stored as drafted. -/
theorem addRest_follows (consistent : platform.validate = .ok ()) (issued : Nat) :
    Follows (PlainList.all.forM (PlainList.add platform) >>= fun _ =>
        NodeTokens.issue platform.nodeNames >>= fun tokens => platform.addNodes tokens >>= fun _ =>
          platform.initiators.forM InitiatorSection.add) issued (platform.draft issued) := by
  have initiators := Follows.forM (fun (initiator : InitiatorSection)
    (_ : initiator ∈ platform.initiators) issued => initiator.add_follows issued)
      (platform.nodeDraft issued).issued
  have nodes := (addNodes_follows consistent issued).bind
    (fun _ => platform.initiators.forM InitiatorSection.add) initiators
  rw [bind_assoc] at nodes
  exact (platform.addPlain_follows issued).bind (fun _ => _) nodes

/-- A consistent description has a record about the vendor. -/
theorem toInfo_of_validate (consistent : platform.validate = .ok ()) :
    ∃ info, platform.vendor.toInfo = .ok info := by
  unfold validate at consistent
  obtain ⟨info, made, _⟩ := bind_eq_ok.mp consistent
  exact ⟨info, made⟩

/-- **Storing a consistent description** is storing the record about the vendor, and then all the
rest. -/
theorem addAll_after {info : ManagerInfo} (made : platform.vendor.toInfo = .ok info)
    (configuration : Configuration) :
    platform.addAll configuration =
      (PlainList.all.forM (PlainList.add platform) >>= fun _ =>
        NodeTokens.issue platform.nodeNames >>= fun tokens => platform.addNodes tokens >>= fun _ =>
          platform.initiators.forM InitiatorSection.add)
        ⟨configuration.store.put (.ofRecords .null [info]), configuration.issued⟩ := by
  have few : [info].length ≤ maxCount := (by decide : 1 ≤ maxCount)
  have vendor : storeVendor info configuration = (.ok (),
      ⟨configuration.store.put (.ofRecords .null [info]), configuration.issued⟩) := by
    unfold storeVendor
    rw [Store.setObjects_eq few]
  have info : (liftM platform.vendor.toInfo : Population ManagerInfo) configuration =
      (.ok info, configuration) := by
    rw [made]
    rfl
  rw [platform.addAll_eq, Population.bind_ok info, Population.bind_ok vendor]

/-! ### Applying a description -/

variable {σ : Type}

/-- A description is stored, starting from a store in which the record about the vendor is new, as
far as there is room. -/
structure Fills (platform : Platform) (start : Store) (issued : Nat)
    (outcome : Except PlatformError Unit) (after : Configuration) : Prop where
  /-- It is accepted if and only if no deposit meets as many instances as can be counted. -/
  accepted : outcome = .ok () ↔ start.HasRoom (platform.deposits issued)
  /-- Then all deposits are made. -/
  complete : outcome = .ok () →
    after = ⟨(start.take (platform.deposits issued)).store, (platform.draft issued).issued⟩
  /-- Otherwise the first deposit without room is refused, and nothing else goes wrong. -/
  refused : ∀ error, outcome = .error error → ∃ before deposit behind,
    platform.deposits issued = before ++ deposit :: behind ∧ start.HasRoom before ∧
      maxCount ≤ deposit.met (start.take before).store ∧
      error = .repository (.invalidParameter (.countOverflow deposit.id)) ∧
      after.store = (start.take before).store

/-- How applying a description to a manager ends. -/
structure Settles (platform : Platform) (manager : Manager σ) : Prop where
  /-- A manager that is not installed refuses, and nothing changes. -/
  uninstalled : manager.installed = false →
    platform.apply manager = (.error (.repository .unsupported), manager)
  /-- A description that is not consistent is refused, and nothing changes. -/
  inconsistent : ∀ error, manager.installed = true → platform.validate = .error error →
    platform.apply manager = (.error error, manager)
  /-- A consistent description is stored as far as there is room. -/
  consistent : manager.installed = true → platform.validate = .ok () →
    ∃ info, platform.vendor.toInfo = .ok info ∧
      platform.Fills (manager.configuration.store.put (.ofRecords .null [info]))
        manager.configuration.issued (platform.apply manager).1
        (platform.apply manager).2.configuration
  /-- Nothing but the configuration ever changes. -/
  others : ∃ configuration,
    (platform.apply manager).2 = { manager with configuration := configuration }

/-- What follows a draft ends with an error only if there is no room. -/
theorem fills_of_follows {action : Population Unit} {issued : Nat}
    (follows : Follows action issued (platform.draft issued)) (start : Store) :
    platform.Fills start issued (action ⟨start, issued⟩).1 (action ⟨start, issued⟩).2 where
  accepted := by
    rw [deposits, ← follows.ok_iff_hasRoom start]
    exact ⟨fun done => ⟨(), done⟩, fun ⟨_, done⟩ => done⟩
  complete done := (follows.eq_of_ok (Prod.ext done rfl)).2.2
  refused _ failed := follows.eq_of_error (Prod.ext failed rfl)

/-- A consistent description is refused only for want of room. -/
theorem addAll_eq_error {configuration : Configuration} {error : PlatformError}
    (consistent : platform.validate = .ok ())
    (failed : (platform.addAll configuration).1 = .error error) :
    ∃ id, error = .repository (.invalidParameter (.countOverflow id)) := by
  obtain ⟨info, made⟩ := toInfo_of_validate consistent
  rw [addAll_after made] at failed
  obtain ⟨_, deposit, _, _, _, _, cause, _⟩ :=
    (fills_of_follows (addRest_follows consistent configuration.issued) _).refused error failed
  exact ⟨deposit.id, cause⟩

theorem apply_unchanged {manager : Manager σ} {outcome : Except PlatformError Unit}
    (same : platform.populate manager.installed manager.configuration =
      (outcome, manager.configuration)) : platform.apply manager = (outcome, manager) := by
  unfold apply
  rw [same]

theorem apply_of_accepted {manager : Manager σ} (accepted : (platform.apply manager).1 = .ok ()) :
    platform.apply manager = (.ok (), (platform.apply manager).2) :=
  Prod.ext accepted rfl

/-- What is stored of a description that is accepted. -/
theorem taken_of_apply {manager after : Manager σ}
    (accepted : platform.apply manager = (.ok (), after)) :
    ∃ info, platform.vendor.toInfo = .ok info ∧
      ((manager.configuration.store.put (.ofRecords .null [info])).take
        (platform.deposits manager.configuration.issued)).outcome.result = .ok () ∧
      after.configuration =
        ⟨((manager.configuration.store.put (.ofRecords .null [info])).take
          (platform.deposits manager.configuration.issued)).store,
          (platform.draft manager.configuration.issued).issued⟩ := by
  obtain ⟨consistent, done⟩ := Configured.apply_eq_ok accepted
  obtain ⟨info, made⟩ := toInfo_of_validate consistent
  rw [addAll_after made] at done
  obtain ⟨taken, _, stored⟩ := (addRest_follows consistent _).eq_of_ok done
  exact ⟨info, made, taken, stored⟩

/-- **How applying a description ends.** -/
theorem apply_settles (platform : Platform) (manager : Manager σ) : platform.Settles manager where
  uninstalled absent := by
    refine apply_unchanged ?_
    unfold populate
    rw [absent]
    rfl
  inconsistent error installed wrong := by
    refine apply_unchanged ?_
    unfold populate
    rw [installed, wrong]
    rfl
  consistent installed consistent := by
    obtain ⟨info, made⟩ := toInfo_of_validate consistent
    have stored : platform.populate manager.installed manager.configuration =
        platform.addAll manager.configuration := by
      unfold populate
      rw [installed, consistent]
      rfl
    refine ⟨info, made, ?_⟩
    have fills := fills_of_follows (addRest_follows consistent manager.configuration.issued)
      (manager.configuration.store.put (.ofRecords .null [info]))
    rw [← addAll_after made, ← stored] at fills
    exact fills
  others := ⟨(platform.populate manager.installed manager.configuration).2, rfl⟩

end Platform

end FirmwareTables
