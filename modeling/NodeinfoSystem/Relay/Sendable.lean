import NodeinfoSystem.Database.Merge
import NodeinfoSystem.Database.Search
import NodeinfoSystem.Relay.Serving
import Mathlib.Data.Finset.Card

/-!
# Databases that fit a datagram

A list element takes 12 bytes and a database element takes 24, so a list that
arrived in one datagram can make a database that does not fit one. How large an
update makes the database is known beforehand: the entries of the other networks
stay, and the list's own network has an entry for every different address of the
list at most, and exactly so when nothing fails.
-/

namespace NodeinfoSystem.Relay

open Foundation Wire Collector
open Database (manager storedAddress key keys_nodup)

/-- The entries that an update for `networkId` leaves alone. -/
def otherEntries (networkId : Int32) (state : Database.State) : List NodeinfoDatabaseElement :=
  state.entries.filter fun element => !(element.networkId == networkId)

def ownEntries (networkId : Int32) (state : Database.State) : List NodeinfoDatabaseElement :=
  state.entries.filter fun element => element.networkId == networkId

/-- The different addresses of a list. -/
def listAddresses (list : NodedataList Int32) : Finset UInt32 :=
  (list.entries.map storedAddress).toFinset

/-- The entries that an update leads to, if none of its nodes is left out. -/
def expectedEntries (list : NodedataList Int32) (state : Database.State) : ℕ :=
  (otherEntries list.networkId state).length + (listAddresses list).card

section Update

variable {call : Database.Call} {before after : Database.State}

theorem mem_listAddresses {list : NodedataList Int32} {ipaddr : UInt32} :
    ipaddr ∈ listAddresses list ↔ ipaddr ∈ Database.addresses list := by
  simp [listAddresses, Database.addresses]

theorem otherEntries_of_step (stepped : manager.step before call = some after) :
    (otherEntries call.list.networkId after).Perm (otherEntries call.list.networkId before) := by
  apply Database.step_preserves (fun entries =>
    (entries.filter fun element => !(element.networkId == call.list.networkId)).Perm
      (otherEntries call.list.networkId before)) ?_ stepped
  · refine ((removeWhere_perm_filter _ _).filter _).trans ?_
    rw [List.filter_filter, otherEntries]
    apply List.Perm.of_eq
    apply List.filter_congr
    intro element _
    simp only [Database.isObsolete]
    cases element.networkId == call.list.networkId <;> simp
  · intro node _ entries element insertable holds
    rw [List.filter_append]
    simpa [insertable.networkId_eq] using holds

theorem length_entries_eq (networkId : Int32) (state : Database.State) :
    state.entries.length =
      (ownEntries networkId state).length + (otherEntries networkId state).length :=
  List.length_eq_length_filter_add _

theorem nodup_ownAddresses {networkId : Int32} {state : Database.State}
    (unique : (state.entries.map key).Nodup) :
    ((ownEntries networkId state).map (·.ipaddress)).Nodup := by
  have own : ((ownEntries networkId state).map key).Nodup :=
    unique.sublist (List.filter_sublist.map key)
  rw [List.Nodup, List.pairwise_map] at own ⊢
  apply own.imp_of_mem
  intro first second first_mem second_mem different sameAddress
  simp only [ownEntries, List.mem_filter, beq_iff_eq] at first_mem second_mem
  apply different
  rw [key, key, first_mem.2, second_mem.2, sameAddress]

theorem card_ownAddresses (networkId : Int32) {state : Database.State}
    (unique : (state.entries.map key).Nodup) :
    ((ownEntries networkId state).map (·.ipaddress)).toFinset.card =
      (ownEntries networkId state).length := by
  rw [List.toFinset_card_of_nodup (nodup_ownAddresses unique), List.length_map]

theorem mem_ownAddresses {networkId : Int32} {state : Database.State} {ipaddr : UInt32} :
    ipaddr ∈ ((ownEntries networkId state).map (·.ipaddress)).toFinset ↔
      ipaddr ∈ Database.stored networkId state := by
  simp only [ownEntries, List.mem_toFinset, List.mem_map, List.mem_filter, beq_iff_eq,
    Database.stored, Set.mem_ofPred_eq, and_assoc]

theorem length_entries_le (stepped : manager.step before call = some after)
    (unique : (after.entries.map key).Nodup) :
    after.entries.length ≤ expectedEntries call.list before := by
  have subset : ((ownEntries call.list.networkId after).map (·.ipaddress)).toFinset ⊆
      listAddresses call.list := by
    intro ipaddr ipaddr_mem
    rw [mem_ownAddresses] at ipaddr_mem
    rcases ipaddr_mem with ⟨element, element_mem, sameNetwork, rfl⟩
    rw [mem_listAddresses]
    exact Database.listed_of_step stepped element element_mem sameNetwork
  have card_le := Finset.card_le_card subset
  rw [card_ownAddresses _ unique] at card_le
  rw [length_entries_eq call.list.networkId, expectedEntries,
    (otherEntries_of_step stepped).length_eq]
  omega

theorem length_entries_of_quiet (stepped : manager.step before call = some after)
    (unique : (after.entries.map key).Nodup)
    (granted : ∀ allocation, call.os.malloc allocation = true)
    (found : after.failedSearches = before.failedSearches) :
    after.entries.length = expectedEntries call.list before := by
  have same : ((ownEntries call.list.networkId after).map (·.ipaddress)).toFinset =
      listAddresses call.list := by
    ext ipaddr
    rw [mem_ownAddresses, mem_listAddresses,
      Database.stored_eq_addresses_of_step stepped granted found]
  have card_eq := card_ownAddresses call.list.networkId unique
  rw [same] at card_eq
  rw [length_entries_eq call.list.networkId, expectedEntries,
    (otherEntries_of_step stepped).length_eq]
  omega

end Update

/-- The next request for the database can be answered in one datagram. -/
structure Sendable (db : NodeinfoDatabase) : Prop where
  small : 8 + 24 * db.currentSize.toInt ≤ 65507
  payload : ∃ datagram, databasePayload db = some datagram

theorem sendable_snapshot_iff {block : Database.Block}
    (few : block.elements.length ≤ Database.portCount) :
    Sendable block.snapshot ↔ block.elements.length ≤ 2729 := by
  simp only [Database.portCount] at few
  have count : block.snapshot.currentSize.toInt = block.elements.length := by
    apply toInt_ofInt_of_fitsInt
    constructor <;> omega
  constructor
  · intro sendable
    have small := sendable.small
    omega
  · intro small
    exact ⟨by omega, exists_databasePayload (by omega) (by omega)⟩

/--
The snapshot that an update returns fits a datagram if the entries of the other
networks and the different addresses of the list are at most 2729 together. When
nothing fails during the update, it fits only then.
-/
theorem snapshot_sendable (calls : List Database.Call) (state : Database.State)
    (ran : manager.run calls = some state) (call : Database.Call) (db : NodeinfoDatabase)
    (after : Database.State)
    (updated : Database.updateNodeinfoDatabase call.os call.list state = some (some db, after)) :
    (expectedEntries call.list state ≤ 2729 → Sendable db) ∧
      ((∀ allocation, call.os.malloc allocation = true) →
        after.failedSearches = state.failedSearches → Sendable db →
          expectedEntries call.list state ≤ 2729) := by
  have stepped : manager.step state call = some after :=
    Database.manager_step_eq_some.mpr ⟨some db, updated⟩
  have ranAll : manager.run (calls ++ [call]) = some after :=
    (manager.runFrom_append_eq_some).mpr
      ⟨state, ran, (manager.runFrom_cons_eq_some).mpr ⟨after, stepped, rfl⟩⟩
  have unique := keys_nodup ranAll
  have few := (Database.PortsIsolated.of_run ranAll).length_le
  rcases Database.updateNodeinfoDatabase_result updated with ⟨failed, -⟩ | ⟨block, present, copied⟩
  · contradiction
  · rw [Option.some.injEq] at copied
    subst db
    have entries_eq : after.entries = block.elements := by
      rw [Database.State.entries, present]
    rw [entries_eq] at few
    rw [sendable_snapshot_iff few, ← entries_eq]
    refine ⟨?_, ?_⟩
    · intro small
      exact Nat.le_trans (length_entries_le stepped unique) small
    · intro granted found small
      rwa [← length_entries_of_quiet stepped unique granted found]

/-- Two different nodes of a list join one node of another network. -/
theorem snapshot_sendable_repeatedList : ∃ state db after,
    manager.run Database.sampleCalls = some state ∧
    Database.updateNodeinfoDatabase Database.grantingOs Database.repeatedList state =
      some (some db, after) ∧
    expectedEntries Database.repeatedList state = 3 ∧ Sendable db ∧
    (after.failedSearches = state.failedSearches → Sendable db →
      expectedEntries Database.repeatedList state ≤ 2729) := by
  have traced : ((manager.run Database.sampleCalls).bind fun state =>
      (Database.updateNodeinfoDatabase Database.grantingOs Database.repeatedList state).map
        fun outcome => (expectedEntries Database.repeatedList state, outcome.1.isSome)) =
          some (3, true) := by decide
  simp only [Option.bind_eq_some_iff, Option.map_eq_some_iff, Prod.mk.injEq] at traced
  rcases traced with ⟨state, ran, ⟨result, after⟩, updated, expected, isSome⟩
  rcases Option.isSome_iff_exists.mp isSome with ⟨db, rfl⟩
  rcases snapshot_sendable Database.sampleCalls state ran
    ⟨Database.grantingOs, Database.repeatedList⟩ db after updated with ⟨enough, needed⟩
  exact ⟨state, db, after, ran, updated, expected, enough (expected.trans_le (by decide)),
    needed fun _ => rfl⟩

/-! ## A list that fits a datagram and a database that does not -/

/-- The lists that the relay can accept from the network. -/
def ArrivesInOneDatagram (list : NodedataList Int32) : Prop :=
  ∃ datagram : Datagram, datagram.bytes.length ≤ maxIpv4Payload ∧
    Wire.Relay.receiveNodedataList true (some datagram) = some list

/-- The nodes with addresses `1, …, count`. -/
def numberedNodes (count : ℕ) : List (Nodedata UInt32) :=
  (List.range count).map fun index => ⟨UInt32.ofNat (index + 1), -1, 1⟩

theorem length_numberedNodes (count : ℕ) : (numberedNodes count).length = count := by
  rw [numberedNodes, List.length_map, List.length_range]

def manyNodes : NodedataList UInt32 where
  maxSize := 2730
  currentSize := 2730
  networkId := 1
  nodedatas := numberedNodes 2730
  inBounds := by
    rw [length_numberedNodes]
    decide

theorem toNat_currentSize_manyNodes : manyNodes.currentSize.toInt.toNat = 2730 := by
  decide

theorem entries_manyNodes : manyNodes.entries = numberedNodes 2730 := by
  have whole := List.take_of_length_le (Nat.le_of_eq (length_numberedNodes 2730))
  rw [NodedataList.entries, toNat_currentSize_manyNodes]
  simp only [manyNodes, whole]

theorem length_encode_manyNodes :
    (encodeNodedataList collectorAddress manyNodes).length = 32772 := by
  have length_eq := length_encodeNodedataList collectorAddress manyNodes
  simp only [toNat_currentSize_manyNodes, nodedataListSize, nodedataSize, Nat.reduceMul,
    Nat.reduceAdd] at length_eq
  exact length_eq

def manyDatagram : Datagram where
  bytes := encodeNodedataList collectorAddress manyNodes
  fits := by
    rw [length_encode_manyNodes]
    decide

theorem storedAddress_relayNode (node : Nodedata UInt32) :
    storedAddress (relayNode node) = node.ipaddress :=
  UInt32.toUInt32_toInt32 _

theorem exists_manyList : ∃ list : NodedataList Int32,
    ArrivesInOneDatagram list ∧ (listAddresses list).card = 2730 ∧ list.entries.length = 2730 ∧
      Database.LeavesRoom list := by
  have nonneg : 0 ≤ manyNodes.currentSize.toInt := by decide
  have fits : manyDatagram.bytes.length ≤ maxIpv4Payload := by
    rw [manyDatagram, length_encode_manyNodes]
    decide
  have bytes_eq : manyDatagram.bytes = encodeNodedataList collectorAddress manyNodes := rfl
  rcases Wire.Relay.receiveNodedataList_encode nonneg bytes_eq with ⟨list, received, readBack⟩
  have stored : list.entries.map storedAddress =
      (List.range 2730).map fun index => UInt32.ofNat (index + 1) := by
    rw [readBack.entries_eq, entries_manyNodes, numberedNodes, List.map_map, List.map_map]
    apply List.map_congr_left
    intro index _
    exact storedAddress_relayNode _
  have distinct : ((List.range 2730).map fun index => UInt32.ofNat (index + 1)).Nodup := by
    apply List.Nodup.map_on _ List.nodup_range
    intro first first_mem second second_mem equal
    rw [List.mem_range] at first_mem second_mem
    have values := congrArg UInt32.toNat equal
    rw [UInt32.toNat_ofNat', UInt32.toNat_ofNat', Nat.mod_eq_of_lt (by omega),
      Nat.mod_eq_of_lt (by omega)] at values
    omega
  refine ⟨list, ⟨manyDatagram, fits, received⟩, ?_, ?_, Database.leavesRoom_of_received received⟩
  · rw [listAddresses, stored, List.toFinset_card_of_nodup distinct, List.length_map,
      List.length_range]
  · rw [readBack.entries_eq, entries_manyNodes, List.length_map, length_numberedNodes]

/-- A list of 2730 nodes leads to a database that cannot be sent. -/
theorem not_forall_sendable : ¬∀ (calls : List Database.Call) (state : Database.State),
    (∀ call ∈ calls, ArrivesInOneDatagram call.list) → manager.run calls = some state →
      ∀ call : Database.Call, ArrivesInOneDatagram call.list →
        ∀ db after,
          Database.updateNodeinfoDatabase call.os call.list state = some (some db, after) →
            Sendable db := by
  intro always
  rcases exists_manyList with ⟨list, arrives, card_eq, length_eq, room⟩
  rcases Database.Managed.initial.exists_update Database.grantingOs room with
    ⟨result, after, updated, -⟩
  rcases Database.updateNodeinfoDatabase_result updated with ⟨-, _, refused⟩ | ⟨block, -, rfl⟩
  · contradiction
  · have found : after.failedSearches = Database.State.initial.failedSearches := by
      rcases Database.updateNodeinfoDatabase_cases updated with
        ⟨-, _, refused⟩ | ⟨start, final, start_eq, start_failed, added, -, after_failed⟩
      · contradiction
      · have few : 2 * (start.entries.length + list.entries.length) < 55536 := by
          have start_le := length_removeWhere_le (Database.isObsolete list) []
          rw [List.length_nil] at start_le
          rw [start_eq, length_eq, Database.State.entries_initial]
          omega
        have quiet := Database.addNodes_of_granted (fun _ _ => rfl) few added
        rw [after_failed, quiet, start_failed]
    have sendable := always [] Database.State.initial (by simp) rfl
      ⟨Database.grantingOs, list⟩ arrives _ after updated
    have small := (snapshot_sendable [] Database.State.initial rfl ⟨Database.grantingOs, list⟩ _
      after updated).2 (fun _ => rfl) found sendable
    rw [expectedEntries, card_eq] at small
    omega

end NodeinfoSystem.Relay
