/-
**What is stored under tokens.**

A `Lot` is so many instances of one object under one token. A configuration `HasLots` if these are
the lots of its entries under tokens, in any order and each under a token of its own. Besides, what
is under the null token is of objects that are always stored there, and tokens that are reserved are
left to nodes.

* `HasLots.of_rewrites`: what is stored under the null token is no lot;
* `HasLots.cons`: an entry under an unused token is one lot more;
* `addList_does`: a list is stored under a token of its own.
-/

import FirmwareTables.Proofs.Platform.Running

namespace FirmwareTables

open Population (Does Yields)

/-! ### Lots -/

/-- So many instances of an object under a token. -/
structure Lot where
  /-- The object. -/
  id : ObjectId
  /-- The token. -/
  token : Token
  /-- The number of instances. -/
  count : UInt32

/-- The lot of a list by its length and its token; there is none for the null token. -/
def Lot.ofList (id : ObjectId) (stored : UInt32 × Token) : List Lot :=
  if stored.2.isNull then [] else [⟨id, stored.2, stored.1⟩]

/-- The lot that an entry is. -/
def Entry.lot (entry : Entry) : Lot := ⟨entry.id, entry.token, entry.count⟩

namespace Store

/-- The entries under other tokens than the null token. -/
def named (store : Store) : List Entry := store.entries.filter fun entry => !entry.token.isNull

variable {before after : Store} {id : ObjectId} {token : Token}

theorem Rewrites.mem (rewrites : before.Rewrites id token after) :
    ∀ entry ∈ after.entries,
      entry ∈ before.entries ∨ (entry.id = id ∧ entry.token = token) := by
  refine rewrites (fun store => ∀ entry ∈ store.entries,
    entry ∈ before.entries ∨ (entry.id = id ∧ entry.token = token))
    (fun store new object place known other inside => ?_) fun _ => .inl
  rcases mem_put inside with rfl | inside
  · exact .inr ⟨object, place⟩
  · exact known other inside

theorem Rewrites.named_eq (rewrites : before.Rewrites id .null after) :
    after.named = before.named := by
  refine rewrites (fun store => store.named = before.named)
    (fun store entry _ place same => ?_) rfl
  rw [← same]
  refine filter_put fun other here => ?_
  obtain ⟨_, equal⟩ := Bool.and_eq_true_iff.mp here
  rw [eq_of_beq equal, place]
  rfl

end Store

/-- The objects that are stored under the null token. -/
def untaggedIds : List ObjectId :=
  [Record.objectId ManagerInfo, Record.objectId TableRequest, Record.objectId CpuInterface,
    Record.objectId Distributor, Record.objectId MsiFrame, Record.objectId Redistributor,
    Record.objectId TranslationService, Record.objectId ConfigSpace,
    Record.objectId MemoryAffinity, Record.objectId GenericInitiator]

/-- The entries under tokens are these lots. -/
structure HasLots (reserved : Token → Prop) (lots : List Lot) (configuration : Configuration) :
    Prop where
  /-- Reserved tokens are issued. -/
  issued : ∀ token, reserved token → configuration.HasIssued token ∧ token.isNull = false
  /-- Only nodes are under reserved tokens. -/
  nodes : ∀ entry ∈ configuration.store.entries, reserved entry.token → entry.id ∈ nodeIds
  /-- Only certain objects are under the null token. -/
  untagged : ∀ entry ∈ configuration.store.entries, entry.token.isNull = true →
    entry.id ∈ untaggedIds
  /-- No two lots are under one token. -/
  distinct : (lots.map Lot.token).Nodup
  /-- The entries. -/
  entries : (configuration.store.named.map Entry.lot).Perm lots

namespace HasLots

variable {reserved : Token → Prop} {lots others : List Lot} {configuration : Configuration}

theorem perm (has : HasLots reserved lots configuration) (same : lots.Perm others) :
    HasLots reserved others configuration :=
  ⟨has.issued, has.nodes, has.untagged, (same.map Lot.token).nodup_iff.mp has.distinct,
    has.entries.trans same⟩

/-- **What is stored under the null token** is no lot. -/
theorem of_rewrites (has : HasLots reserved lots configuration) {id : ObjectId} {store : Store}
    (rewrites : configuration.store.Rewrites id .null store) (untagged : id ∈ untaggedIds) :
    HasLots reserved lots { configuration with store := store } where
  issued := has.issued
  nodes entry inside taken := by
    rcases rewrites.mem entry inside with old | ⟨_, place⟩
    · exact has.nodes entry old taken
    · rw [place] at taken
      cases (has.issued .null taken).2
  untagged entry inside null := by
    rcases rewrites.mem entry inside with old | ⟨object, _⟩
    · exact has.untagged entry old null
    · rw [object]
      exact untagged
  distinct := has.distinct
  entries := by
    rw [rewrites.named_eq]
    exact has.entries

/-- **An entry under an unused token** is one lot more. -/
theorem cons (has : HasLots reserved lots configuration) {entry : Entry} {store : Store}
    (front : store.entries = entry :: configuration.store.entries)
    (named : entry.token.isNull = false)
    (unused : ∀ other ∈ configuration.store.entries, other.token ≠ entry.token)
    (left : reserved entry.token → entry.id ∈ nodeIds) :
    HasLots reserved (entry.lot :: lots) { configuration with store := store } where
  issued := has.issued
  nodes other inside taken := by
    rw [front] at inside
    rcases List.mem_cons.mp inside with rfl | inside
    · exact left taken
    · exact has.nodes other inside taken
  untagged other inside null := by
    rw [front] at inside
    rcases List.mem_cons.mp inside with rfl | inside
    · rw [named] at null
      cases null
    · exact has.untagged other inside null
  distinct := by
    refine List.nodup_cons.mpr ⟨fun inside => ?_, has.distinct⟩
    obtain ⟨lot, member, same⟩ := List.mem_map.mp inside
    obtain ⟨other, there, rfl⟩ := List.mem_map.mp (has.entries.mem_iff.mpr member)
    exact unused other (List.mem_of_mem_filter there) same
  entries := by
    unfold Store.named
    rw [front, List.filter_cons, named]
    exact has.entries.cons entry.lot

end HasLots

/-! ### Storing lots -/

namespace Population

variable {α : Type} [Record α] (reserved : Token → Prop) (lots : List Lot)

/-- A new token is not reserved. -/
theorem newToken_yields : Yields (HasLots reserved lots) newToken
    fun token configuration => HasLots reserved lots configuration ∧ ¬ reserved token := by
  intro before value after done small _ has
  cases done
  refine ⟨⟨fun token taken => ?_, has.nodes, has.untagged, has.distinct, has.entries⟩, ?_⟩
  · obtain ⟨⟨number, least, same⟩, named⟩ := has.issued token taken
    exact ⟨⟨number, Nat.lt_succ_of_lt least, same⟩, named⟩
  · intro taken
    obtain ⟨⟨number, least, same⟩, _⟩ := has.issued _ taken
    have less : number + 1 < UInt64.size := Nat.lt_trans (Nat.succ_lt_succ least) small
    exact Nat.ne_of_lt least (Token.next_injective less small same.symm)

/-- Records under the null token are no lot. -/
theorem addRecords_yields (untagged : Record.objectId α ∈ untaggedIds) (records : List α) :
    Yields (HasLots reserved lots) (addRecords .null records) fun _ => HasLots reserved lots := by
  intro before value after done _ _ has
  obtain ⟨_, rfl⟩ := addRecords_eq_ok done
  exact has.of_rewrites (Store.rewrites_addObjects .null records before.store) untagged

/-- Records under an unused token are one lot. -/
theorem addNew_yields (token : Token) (record : α) (records : List α) :
    Yields
      (fun configuration => (token.isNull = false ∧
        (∀ entry ∈ configuration.store.entries, entry.token ≠ token) ∧
        (reserved token → Record.objectId α ∈ nodeIds)) ∧ HasLots reserved lots configuration)
      (addRecords token (record :: records))
      fun _ => HasLots reserved
        (⟨Record.objectId α, token, UInt32.ofNat (record :: records).length⟩ :: lots) := by
  intro before value after done _ _ ⟨⟨named, unused, left⟩, has⟩
  obtain ⟨result, rfl⟩ := addRecords_eq_ok done
  have absent : ∀ entry ∈ before.store.entries,
      entry.isAt (Record.objectId α) token = false := by
    intro entry inside
    refine Bool.eq_false_iff.mpr fun here => unused entry inside ?_
    exact eq_of_beq (Bool.and_eq_true_iff.mp here).2
  have front := Store.entries_addObjects absent named result
  exact @HasLots.cons _ _ _ has (.ofRecords token (record :: records)) _ front named unused left

/-- **A list is stored** under a token of its own. -/
theorem addList_does (records : List α) :
    Does [Record.objectId α] (HasLots reserved lots) (addList records)
      fun stored configuration => IsStored configuration.store records stored.1 stored.2 ∧
        HasLots reserved (Lot.ofList (Record.objectId α) stored ++ lots) configuration := by
  cases records with
  | nil =>
    have none := Does.pure [Record.objectId α] ((0, .null) : UInt32 × Token)
      fun stored configuration => IsStored configuration.store ([] : List α) stored.1 stored.2 ∧
        HasLots reserved (Lot.ofList (Record.objectId α) stored ++ lots) configuration
    exact none.weaken (fun _ has => ⟨.none, has⟩) fun _ _ => id
  | cons record records =>
    show Does _ _ (newToken >>= fun token => addRecords token (record :: records) >>= fun _ =>
      pure (UInt32.ofNat (record :: records).length, token)) _
    have fresh := (newToken_does [Record.objectId α]).also (newToken_yields reserved lots)
    refine (fresh.weaken (fun _ has => ⟨trivial, has⟩) fun _ _ => id).bind fun token => ?_
    have add := ((addNew_does token record records).also
      (addNew_yields reserved lots token record records)).keep (.const _ (token.isNull = false))
    refine (add.weaken ?_ fun _ _ => id).bind fun _ => ?_
    · rintro configuration ⟨⟨issued, named, unused⟩, has, free⟩
      exact ⟨⟨⟨issued, named, unused⟩, ⟨named, unused, fun taken => absurd taken free⟩, has⟩, named⟩
    · have made := Does.pure [Record.objectId α] (UInt32.ofNat (record :: records).length, token)
        fun stored configuration =>
          IsStored configuration.store (record :: records) stored.1 stored.2 ∧
            HasLots reserved (Lot.ofList (Record.objectId α) stored ++ lots) configuration
      refine made.weaken (fun configuration ⟨⟨stored, has⟩, named⟩ => ⟨stored, ?_⟩) fun _ _ => id
      unfold Lot.ofList
      rw [named]
      exact has

end Population

end FirmwareTables
