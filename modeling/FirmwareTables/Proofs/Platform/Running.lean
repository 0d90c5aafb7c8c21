/-
**Populations that succeed.**

`Does ids pre action post` says what a population does if it ends well and the tokens have not run
out: from a configuration in which all tokens in use are null or issued, and for which `pre` holds,
it comes to one for which `post` holds. It changes the entries of no objects but `ids`, and arrays
once stored stay as they are (`Grows`); what only depends on these is `Stable` and can be kept along
(`Does.keep`).

* `newToken_does`: a new token is under no entry;
* `addRecords_does`: records are added behind those that are there;
* `addNew_does`: a list is stored under a new token (`IsStored`).
-/

import FirmwareTables.Platform.Population
import FirmwareTables.Proofs.Repository.Adding

namespace FirmwareTables

/-! ### Tokens -/

namespace Token

theorem isNull_eq_false_iff {token : Token} : token.isNull = false ↔ token ≠ null :=
  beq_eq_false_iff_ne

theorem next_injective {first second : Nat} (one : first + 1 < UInt64.size)
    (other : second + 1 < UInt64.size) (same : next first = next second) : first = second := by
  have numbers := congrArg (fun token => token.raw.toNat) same
  simp only [next, UInt64.toNat_ofNat'] at numbers
  rw [Nat.mod_eq_of_lt one, Nat.mod_eq_of_lt other] at numbers
  exact Nat.succ.inj numbers

theorem isNull_next {number : Nat} (small : number + 1 < UInt64.size) :
    (next number).isNull = false := by
  refine isNull_eq_false_iff.mpr fun same => ?_
  have numbers := congrArg (fun token => token.raw.toNat) same
  simp only [next, UInt64.toNat_ofNat'] at numbers
  rw [Nat.mod_eq_of_lt small] at numbers
  exact Nat.succ_ne_zero _ numbers

end Token

/-! ### Configurations that grow -/

/-- The objects that are stored as arrays, each array under a token of its own. -/
def arrayIds : List ObjectId :=
  [Record.objectId ItsIdentifier, Record.objectId IdMapping, Record.objectId SmmuInterrupt,
    Record.objectId AcpiHandle, Record.objectId PciHandle]

/-- The objects that are nodes. -/
def nodeIds : List ObjectId :=
  [Record.objectId ItsGroup, Record.objectId NamedComponent, Record.objectId RootComplex,
    Record.objectId SmmuV1V2, Record.objectId SmmuV3, Record.objectId Pmcg]

namespace Configuration

/-- A token was issued. -/
def HasIssued (configuration : Configuration) (token : Token) : Prop :=
  ∃ number < configuration.issued, token = .next number

/-- All tokens in use are null or issued. -/
def IsIssued (configuration : Configuration) : Prop :=
  ∀ entry ∈ configuration.store.entries, entry.token = .null ∨ configuration.HasIssued entry.token

/-- Only entries of certain objects changed, and no array that was there. -/
structure Grows (ids : List ObjectId) (before after : Configuration) : Prop where
  /-- No token is taken back. -/
  more : before.issued ≤ after.issued
  /-- The entries of other objects are the same. -/
  others : ∀ keep : Entry → Bool, (∀ entry : Entry, entry.id ∈ ids → keep entry = false) →
    after.store.entries.filter keep = before.store.entries.filter keep
  /-- Arrays that were there still are. -/
  arrays : ∀ id ∈ arrayIds, ∀ token, token.isNull = false → before.store.found id token ≠ [] →
    after.store.found id token = before.store.found id token
  /-- Tokens in use are still null or issued. -/
  issued : before.IsIssued → after.IsIssued

namespace Grows

variable {ids more : List ObjectId} {before between after : Configuration}

theorem refl (ids : List ObjectId) (configuration : Configuration) :
    Grows ids configuration configuration :=
  ⟨Nat.le_refl _, fun _ _ => rfl, fun _ _ _ _ _ => rfl, id⟩

theorem trans (first : Grows ids before between) (second : Grows ids between after) :
    Grows ids before after where
  more := Nat.le_trans first.more second.more
  others keep apart := (second.others keep apart).trans (first.others keep apart)
  arrays id array token named there := by
    have same := first.arrays id array token named there
    rw [← same] at there
    exact (second.arrays id array token named there).trans same
  issued start := second.issued (first.issued start)

theorem widen (grows : Grows ids before after) (within : ids ⊆ more) : Grows more before after :=
  ⟨grows.more, fun keep apart => grows.others keep fun entry inside => apart entry (within inside),
    grows.arrays, grows.issued⟩

/-- What is found of other objects is the same. -/
theorem found_eq (grows : Grows ids before after) {id : ObjectId} (apart : id ∉ ids)
    (token : Token) : after.store.found id token = before.store.found id token := by
  refine grows.others _ fun entry inside => ?_
  have other : entry.id ≠ id := fun same => apart (same ▸ inside)
  unfold Entry.isFound
  rw [beq_eq_false_iff_ne.mpr other, Bool.false_and]

end Grows

end Configuration

/-- A property that stays while configurations grow. -/
def Stable (ids : List ObjectId) (holds : Configuration → Prop) : Prop :=
  ∀ before after, before.Grows ids after → holds before → holds after

theorem Stable.const (ids : List ObjectId) (fact : Prop) : Stable ids fun _ => fact :=
  fun _ _ _ => id

theorem Stable.hasIssued (ids : List ObjectId) (token : Token) :
    Stable ids fun configuration => configuration.HasIssued token :=
  fun _ _ grows ⟨number, least, same⟩ => ⟨number, Nat.lt_of_lt_of_le least grows.more, same⟩

theorem Stable.and {ids : List ObjectId} {first second : Configuration → Prop}
    (one : Stable ids first) (other : Stable ids second) :
    Stable ids fun configuration => first configuration ∧ second configuration :=
  fun before after grows holds => ⟨one before after grows holds.1, other before after grows holds.2⟩

/-! ### What a population does -/

namespace Population

variable {α β : Type} {ids more : List ObjectId}

/-- What a population does to a configuration if it succeeds. -/
def Does (ids : List ObjectId) (pre : Configuration → Prop) (action : Population α)
    (post : α → Configuration → Prop) : Prop :=
  ∀ before value after, action before = (.ok value, after) →
    before.issued ≤ after.issued ∧
      (after.issued < UInt64.size → before.IsIssued → pre before →
        before.Grows ids after ∧ post value after)

/-- What follows if a population succeeds, as `Does` but for what stays as it is. -/
def Yields (pre : Configuration → Prop) (action : Population α)
    (post : α → Configuration → Prop) : Prop :=
  ∀ before value after, action before = (.ok value, after) → after.issued < UInt64.size →
    before.IsIssued → pre before → post value after

theorem bind_eq {action : Population α} {next : α → Population β} (before : Configuration) :
    (action >>= next) before =
      match action before with
      | (.ok first, between) => next first between
      | (.error error, between) => (.error error, between) := by
  show (match action before with
    | (outcome, between) => ExceptT.bindCont next outcome between) = _
  cases action before with
  | mk outcome between => cases outcome <;> rfl

theorem bind_ok {action : Population α} {next : α → Population β} {before between : Configuration}
    {first : α} (done : action before = (.ok first, between)) :
    (action >>= next) before = next first between := by
  rw [bind_eq, done]

theorem bind_eq_ok {action : Population α} {next : α → Population β} {before after : Configuration}
    {value : β} (done : (action >>= next) before = (.ok value, after)) :
    ∃ first between, action before = (.ok first, between) ∧
      next first between = (.ok value, after) := by
  rw [bind_eq] at done
  cases first : action before with
  | mk outcome between =>
    rw [first] at done
    cases outcome with
    | error error => cases done
    | ok middle => exact ⟨middle, between, rfl, done⟩

namespace Does

variable {pre : Configuration → Prop} {action : Population α} {post : α → Configuration → Prop}

theorem pure (ids : List ObjectId) (value : α) (post : α → Configuration → Prop) :
    Does ids (post value) (Pure.pure value) post := by
  intro before _ after done
  cases done
  exact ⟨Nat.le_refl _, fun _ _ holds => ⟨.refl _ _, holds⟩⟩

theorem bind {next : α → Population β} {middle : α → Configuration → Prop}
    {last : β → Configuration → Prop} (first : Does ids pre action middle)
    (rest : ∀ value, Does ids (middle value) (next value) last) :
    Does ids pre (action >>= next) last := by
  intro before value after done
  obtain ⟨made, between, one, other⟩ := bind_eq_ok done
  obtain ⟨least, start⟩ := first before made between one
  obtain ⟨most, finish⟩ := rest made between value after other
  refine ⟨Nat.le_trans least most, fun small issued holds => ?_⟩
  obtain ⟨grows, reached⟩ := start (Nat.lt_of_le_of_lt most small) issued holds
  obtain ⟨grown, ends⟩ := finish small (grows.issued issued) reached
  exact ⟨grows.trans grown, ends⟩

theorem weaken {stronger : Configuration → Prop} {weaker : α → Configuration → Prop}
    (does : Does ids pre action post) (start : ∀ configuration, stronger configuration →
      pre configuration)
    (finish : ∀ value configuration, post value configuration → weaker value configuration) :
    Does ids stronger action weaker := by
  intro before value after done
  obtain ⟨least, rest⟩ := does before value after done
  refine ⟨least, fun small issued holds => ?_⟩
  obtain ⟨grows, reached⟩ := rest small issued (start before holds)
  exact ⟨grows, finish value after reached⟩

theorem widen (does : Does ids pre action post) (within : ids ⊆ more) :
    Does more pre action post := by
  intro before value after done
  obtain ⟨least, rest⟩ := does before value after done
  refine ⟨least, fun small issued holds => ?_⟩
  obtain ⟨grows, reached⟩ := rest small issued holds
  exact ⟨grows.widen within, reached⟩

/-- **What is stable can be kept along.** -/
theorem keep {holds : Configuration → Prop} (does : Does ids pre action post)
    (stable : Stable ids holds) :
    Does ids (fun configuration => pre configuration ∧ holds configuration) action
      fun value configuration => post value configuration ∧ holds configuration := by
  intro before value after done
  obtain ⟨least, rest⟩ := does before value after done
  refine ⟨least, fun small issued both => ?_⟩
  obtain ⟨grows, reached⟩ := rest small issued both.1
  exact ⟨grows, reached, stable before after grows both.2⟩

/-- What else follows from a success can be added. -/
theorem also {start : Configuration → Prop} {finish : α → Configuration → Prop}
    (does : Does ids pre action post) (yields : Yields start action finish) :
    Does ids (fun configuration => pre configuration ∧ start configuration) action
      fun value configuration => post value configuration ∧ finish value configuration := by
  intro before value after done
  obtain ⟨least, rest⟩ := does before value after done
  refine ⟨least, fun small issued both => ?_⟩
  obtain ⟨grows, reached⟩ := rest small issued both.1
  exact ⟨grows, reached, yields before value after done small issued both.2⟩

theorem exists_pre {ι : Type} [Nonempty ι] {start : ι → Configuration → Prop}
    (does : ∀ choice, Does ids (start choice) action post) :
    Does ids (fun configuration => ∃ choice, start choice configuration) action post := by
  intro before value after done
  obtain ⟨any⟩ := ‹Nonempty ι›
  refine ⟨(does any before value after done).1, fun small issued ⟨choice, holds⟩ => ?_⟩
  exact (does choice before value after done).2 small issued holds

/-- A list of values, each with what is related to it, while something else holds all the time. -/
theorem mapM {holds : Configuration → Prop} {action : α → Population β} (related : α → β → Prop)
    (step : ∀ item, Does ids holds (action item)
      fun value configuration => related item value ∧ holds configuration)
    (items : List α) :
    Does ids holds (items.mapM action) fun values configuration =>
      List.Forall₂ related items values ∧ holds configuration := by
  induction items with
  | nil =>
    have none := pure ids ([] : List β) fun values configuration =>
      List.Forall₂ related [] values ∧ holds configuration
    exact none.weaken (fun _ here => ⟨.nil, here⟩) fun _ _ => id
  | cons item items ih =>
    rw [List.mapM_cons]
    refine (step item).bind fun value => ?_
    have rest := ih.keep (.const ids (related item value))
    refine (rest.weaken (fun _ both => both.symm) fun _ _ => id).bind fun values => ?_
    have made := pure ids (value :: values) fun values configuration =>
      List.Forall₂ related (item :: items) values ∧ holds configuration
    exact made.weaken (fun _ ⟨⟨others, here⟩, first⟩ => ⟨.cons first others, here⟩) fun _ _ => id

/-- **A population for every item of a list**, with what holds when some are done and others are
not. -/
theorem forM {ι : Type _} {action : ι → Population Unit} {items : List ι}
    (motive : List ι → List ι → Configuration → Prop)
    (step : ∀ done item rest, items = done ++ item :: rest →
      Does ids (motive done (item :: rest)) (action item) fun _ => motive (done ++ [item]) rest) :
    Does ids (motive [] items) (items.forM action) fun _ => motive items [] := by
  have loop : ∀ rest done, items = done ++ rest →
      Does ids (motive done rest) (rest.forM action) fun _ => motive items [] := by
    intro rest
    induction rest with
    | nil =>
      intro done split
      rw [List.append_nil] at split
      rw [← split]
      exact .pure ids () fun _ => motive items []
    | cons item rest ih =>
      intro done split
      show Does ids _ (action item >>= fun _ => rest.forM action) _
      refine (step done item rest split).bind fun _ => ih (done ++ [item]) ?_
      rw [split, List.append_assoc]
      rfl
  exact loop items [] rfl

end Does

/-! ### Issuing and adding -/

/-- **A new token** is under no entry. -/
theorem newToken_does (ids : List ObjectId) : Does ids (fun _ => True) newToken
    fun token configuration => configuration.HasIssued token ∧ token.isNull = false ∧
      ∀ entry ∈ configuration.store.entries, entry.token ≠ token := by
  intro before value after done
  cases done
  refine ⟨Nat.le_succ _, fun small issued _ =>
    ⟨⟨Nat.le_succ _, fun _ _ => rfl, fun _ _ _ _ _ => rfl, ?_⟩, ?_⟩⟩
  · intro _ entry inside
    refine (issued entry inside).imp id fun ⟨number, least, same⟩ => ?_
    exact ⟨number, Nat.lt_succ_of_lt least, same⟩
  · refine ⟨⟨before.issued, Nat.lt_succ_self _, rfl⟩, Token.isNull_next small, ?_⟩
    intro entry inside same
    rcases issued entry inside with null | ⟨number, least, known⟩
    · exact Token.isNull_eq_false_iff.mp (Token.isNull_next small) (same.symm.trans null)
    · have less : number + 1 < UInt64.size := Nat.lt_trans (Nat.succ_lt_succ least) small
      exact Nat.ne_of_lt least (Token.next_injective less small (known.symm.trans same))

variable [Record α]

theorem addRecords_eq_ok {token : Token} {records : List α} {before after : Configuration}
    {value : Unit} (done : addRecords token records before = (.ok value, after)) :
    (Access.live.addObjects token records before.store).outcome.result = .ok () ∧
      after =
        { before with store := (Access.live.addObjects token records before.store).store } := by
  obtain ⟨result, same⟩ := Prod.mk.inj done
  refine ⟨?_, same.symm⟩
  cases made : (Access.live.addObjects token records before.store).outcome.result with
  | error error =>
    rw [made] at result
    cases result
  | ok value => rfl

/-- Storing under a token that may be used changes entries of one object only. -/
theorem grows_of_rewrites {id : ObjectId} {token : Token} {before : Configuration} {store : Store}
    (rewrites : before.store.Rewrites id token store)
    (own : token = .null ∨ before.HasIssued token)
    (unused : id ∈ arrayIds → token.isNull = false ∧ before.store.found id token = []) :
    before.Grows [id] { before with store := store } where
  more := Nat.le_refl _
  others keep apart := by
    refine rewrites (fun store => store.entries.filter keep = before.store.entries.filter keep)
      (fun store entry object _ same => ?_) rfl
    rw [← same]
    refine Store.filter_put fun other here => apart other ?_
    obtain ⟨place, _⟩ := Bool.and_eq_true_iff.mp here
    rw [eq_of_beq place, object]
    exact List.mem_singleton_self _
  arrays array inside place named there := by
    refine rewrites (fun store => store.found array place = before.store.found array place)
      (fun store entry object own same => ?_) rfl
    rw [← same]
    refine Store.filter_put fun other here => Bool.eq_false_iff.mpr fun seen => ?_
    obtain ⟨first, second⟩ := Bool.and_eq_true_iff.mp here
    unfold Entry.isFound at seen
    rw [named, Bool.false_or] at seen
    obtain ⟨third, fourth⟩ := Bool.and_eq_true_iff.mp seen
    have ids : id = array := by rw [← object, ← eq_of_beq first, eq_of_beq third]
    have tokens : token = place := by rw [← own, ← eq_of_beq second, eq_of_beq fourth]
    subst ids tokens
    exact there (unused inside).2
  issued start := by
    refine rewrites (fun store => Configuration.IsIssued { before with store := store })
      (fun store entry _ place known => ?_) start
    intro other inside
    rcases Store.mem_put inside with rfl | inside
    · rw [place]
      exact own
    · exact known other inside

/-- **Adding records** puts them behind those that are there. -/
theorem addRecords_does (token : Token) (known records : List α) :
    Does [Record.objectId α]
      (fun configuration => (token = .null ∨ configuration.HasIssued token) ∧
        (Record.objectId α ∈ arrayIds → token.isNull = false ∧ known = []) ∧
        configuration.store.found (Record.objectId α) token = Entry.listOf token known ∧
        known.length ≤ maxCount)
      (addRecords token records)
      fun _ configuration => (known ++ records).length ≤ maxCount ∧
        configuration.store.found (Record.objectId α) token =
          Entry.listOf token (known ++ records) := by
  intro before value after done
  obtain ⟨result, rfl⟩ := addRecords_eq_ok done
  refine ⟨Nat.le_refl _, fun _ _ ⟨own, unused, found, few⟩ => ⟨?_, ?_⟩⟩
  · refine grows_of_rewrites (Store.rewrites_addObjects token records _) own fun array => ?_
    obtain ⟨named, none⟩ := unused array
    rw [found, none]
    exact ⟨named, rfl⟩
  · exact Store.found_addObjects found few result

end Population

/-! ### Lists under tokens of their own -/

section

variable {α : Type} [Record α]

/-- A list of records is stored: its length and its token are known, and nothing else is found under
the token; the null token belongs to the empty list. -/
inductive IsStored (store : Store) : List α → UInt32 → Token → Prop where
  /-- No records. -/
  | none : IsStored store [] 0 .null
  /-- Some records. -/
  | some {record : α} {records : List α} {token : Token}
      (few : (record :: records).length ≤ maxCount) (named : token.isNull = false)
      (found : store.found (Record.objectId α) token =
        [Entry.ofRecords token (record :: records)]) :
      IsStored store (record :: records) (UInt32.ofNat (record :: records).length) token

theorem IsStored.stable (ids : List ObjectId) (array : Record.objectId α ∈ arrayIds)
    (records : List α) (count : UInt32) (token : Token) :
    Stable ids fun configuration => IsStored configuration.store records count token := by
  intro before after grows stored
  cases stored with
  | none => exact .none
  | some few named found =>
    refine .some few named ?_
    rw [grows.arrays _ array token named (by rw [found]; exact List.cons_ne_nil _ _), found]

/-- A list under a new token. -/
theorem Population.addNew_does (token : Token) (record : α) (records : List α) :
    Does [Record.objectId α]
      (fun configuration => configuration.HasIssued token ∧ token.isNull = false ∧
        ∀ entry ∈ configuration.store.entries, entry.token ≠ token)
      (addRecords token (record :: records))
      fun _ configuration => IsStored configuration.store (record :: records)
        (UInt32.ofNat (record :: records).length) token := by
  have add := (addRecords_does token ([] : List α) (record :: records)).keep
    (.const _ (token.isNull = false))
  refine add.weaken (fun configuration ⟨issued, named, unused⟩ => ?_) fun _ _ => ?_
  · refine ⟨⟨.inr issued, fun _ => ⟨named, rfl⟩, ?_, Nat.zero_le _⟩, named⟩
    refine List.filter_eq_nil_iff.mpr fun entry inside seen => ?_
    unfold Entry.isFound at seen
    rw [named, Bool.false_or] at seen
    exact unused entry inside (eq_of_beq (Bool.and_eq_true_iff.mp seen).2)
  · rintro ⟨⟨few, found⟩, named⟩
    exact .some few named found

end

end FirmwareTables
