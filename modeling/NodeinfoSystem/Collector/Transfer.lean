import NodeinfoSystem.Collector.Payload
import NodeinfoSystem.Files.Update
import NodeinfoSystem.Wire.RoundTrip

/-!
# What the receivers see

The payload of a list is the encoding of the entries in use, so the round trips
of the wire apply to what a master sends: a member and the relay both decode the
master's list, and the files a member writes from it are those of the master. The
same holds of a database that the master forwards.
-/

namespace NodeinfoSystem.Collector

open Wire

/-- The entries in use and the header, as a list whose count has been checked. -/
def ListBlock.list (block : ListBlock) (inside : block.currentSize.toInt ≤ block.slots.length) :
    NodedataList UInt32 where
  maxSize := block.maxSize
  currentSize := block.currentSize
  networkId := block.networkId
  nodedatas := block.slots
  inBounds := inside

@[simp]
theorem entries_list (block : ListBlock) (inside : block.currentSize.toInt ≤ block.slots.length) :
    (block.list inside).entries = block.entries := rfl

theorem take_listMemory {block : ListBlock} (nonneg : 0 ≤ block.currentSize.toInt)
    (inside : block.currentSize.toInt ≤ block.slots.length) :
    (listMemory block).take (listPayloadLen block) =
      encodeNodedataList collectorAddress (block.list inside) := by
  have length_eq := listPayloadLen_eq nonneg
  have split : listPayloadLen block = 12 + nodedataSize * block.currentSize.toInt.toNat := by
    simp only [nodedataSize]
    omega
  have elements := (nodedataFormat collectorAddress).take_encodeAll block.slots
    block.currentSize.toInt.toNat
  rw [listMemory, split, List.take_append, List.take_of_length_le (by simp)]
  simp only [List.length_append, length_encodeWord, Nat.reduceAdd, Nat.add_sub_cancel_left]
  rw [encodeNodedataList]
  exact congrArg _ elements

theorem listPayload_eq {block : ListBlock} (nonneg : 0 ≤ block.currentSize.toInt)
    (small : block.currentSize.toInt ≤ 5457)
    (inside : block.currentSize.toInt ≤ block.slots.length) :
    ∃ datagram, listPayload block = some datagram ∧
      datagram.bytes = encodeNodedataList collectorAddress (block.list inside) := by
  have length_eq := listPayloadLen_eq nonneg
  have fits : listPayloadLen block ≤ maxIpv4Payload := by
    simp only [maxIpv4Payload]
    omega
  refine ⟨_, dif_pos fits, ?_⟩
  exact take_listMemory nonneg inside

theorem bytes_of_listPayload {block : ListBlock} {datagram : Datagram}
    (nonneg : 0 ≤ block.currentSize.toInt)
    (inside : block.currentSize.toInt ≤ block.slots.length)
    (sent : listPayload block = some datagram) :
    datagram.bytes = encodeNodedataList collectorAddress (block.list inside) := by
  simp only [listPayload] at sent
  split at sent
  · simp only [Option.some.injEq] at sent
    subst datagram
    exact take_listMemory nonneg inside
  · contradiction

/-- A member that reads a list finds the entries of the block it was sent from. -/
theorem entries_of_listPayload {block : ListBlock} {datagram : Datagram}
    {list : NodedataList UInt32} (nonneg : 0 ≤ block.currentSize.toInt)
    (inside : block.currentSize.toInt ≤ block.slots.length)
    (sent : listPayload block = some datagram)
    (read : Wire.Member.receiveNodedataList true true (some datagram) = some list) :
    list.entries = block.entries := by
  rcases Wire.Member.receiveNodedataList_encode nonneg (bytes_of_listPayload nonneg inside sent)
    with ⟨received, received_eq, same⟩
  obtain rfl : received = list := Option.some.inj (received_eq.symm.trans read)
  rw [same.entries_eq, List.map_id, entries_list]

/--
A list that fits a datagram survives the wire: both readers accept what the
master sends and return its header and its elements, the relay's with the
addresses as `int`; and a member that updates its files from it does what the
master does.
-/
theorem nodedataList_survives (block : ListBlock) (nonneg : 0 ≤ block.currentSize.toInt)
    (small : block.currentSize.toInt ≤ 5457)
    (inside : block.currentSize.toInt ≤ block.slots.length) :
    ∃ datagram, listPayload block = some datagram ∧
      (datagram.bytes.length : ℤ) = 12 + 12 * block.currentSize.toInt ∧
      (∃ list, Wire.Relay.receiveNodedataList true (some datagram) = some list ∧
        list.maxSize = block.maxSize ∧ list.currentSize = block.currentSize ∧
        list.networkId = block.networkId ∧ list.entries.map collectorNode = block.entries) ∧
      ∃ list, Wire.Member.receiveNodedataList true true (some datagram) = some list ∧
        list.maxSize = block.maxSize ∧ list.currentSize = block.currentSize ∧
        list.networkId = block.networkId ∧ list.entries = block.entries ∧
        ∀ io file, Files.updateNodeinfo io list.entries file =
            Files.updateNodeinfo io block.entries file ∧
          Files.updateHostfile io list.entries file =
            Files.updateHostfile io block.entries file := by
  rcases listPayload_eq nonneg small inside with ⟨datagram, sent, bytes_eq⟩
  rcases Wire.Relay.receiveNodedataList_encode nonneg bytes_eq with
    ⟨relayList, relayRead, relaySame⟩
  rcases Wire.Member.receiveNodedataList_encode nonneg bytes_eq with
    ⟨memberList, memberRead, memberSame⟩
  have entries_eq : memberList.entries = block.entries := by
    rw [memberSame.entries_eq, List.map_id, entries_list]
  refine ⟨datagram, sent, ?_, ?_, ?_⟩
  · have length_eq := length_encodeNodedataList collectorAddress (block.list inside)
    simp only [ListBlock.list, nodedataListSize, nodedataSize] at length_eq
    rw [bytes_eq]
    simp only [ListBlock.list, length_eq]
    omega
  · refine ⟨relayList, relayRead, relaySame.maxSize_eq, relaySame.currentSize_eq,
      relaySame.networkId_eq, ?_⟩
    rw [relaySame.entries_eq, List.map_map, entries_list]
    simp [Function.comp_def]
  · refine ⟨memberList, memberRead, memberSame.maxSize_eq, memberSame.currentSize_eq,
      memberSame.networkId_eq, entries_eq, ?_⟩
    intro io file
    rw [entries_eq]
    exact ⟨rfl, rfl⟩

/-- Two nodes in a block with room for three. -/
def twoNodes : ListBlock where
  maxSize := 3
  currentSize := 2
  networkId := 5
  slots := [⟨0xC0A80001, -1, 4⟩, ⟨0xFFFFFFFF, 125, 8⟩, ⟨0, 0, 0⟩]

theorem nodedataList_survives_twoNodes :
    ∃ datagram, listPayload twoNodes = some datagram ∧
      (datagram.bytes.length : ℤ) = 12 + 12 * twoNodes.currentSize.toInt ∧
      (∃ list, Wire.Relay.receiveNodedataList true (some datagram) = some list ∧
        list.maxSize = twoNodes.maxSize ∧ list.currentSize = twoNodes.currentSize ∧
        list.networkId = twoNodes.networkId ∧
        list.entries.map collectorNode = twoNodes.entries) ∧
      ∃ list, Wire.Member.receiveNodedataList true true (some datagram) = some list ∧
        list.maxSize = twoNodes.maxSize ∧ list.currentSize = twoNodes.currentSize ∧
        list.networkId = twoNodes.networkId ∧ list.entries = twoNodes.entries ∧
        ∀ io file, Files.updateNodeinfo io list.entries file =
            Files.updateNodeinfo io twoNodes.entries file ∧
          Files.updateHostfile io list.entries file =
            Files.updateHostfile io twoNodes.entries file :=
  nodedataList_survives twoNodes (by decide) (by decide) (by decide)

/-! ## Databases -/

theorem receiveDb_of_databasePayload {db : NodeinfoDatabase} {datagram : Datagram}
    (sent : databasePayload db = some datagram) :
    ∃ received, receiveDbOnSocketImpl true (some datagram) = some received ∧
      received.maxSize = db.maxSize ∧ received.currentSize = db.currentSize ∧
      received.entries = db.entries := by
  simp only [databasePayload] at sent
  split at sent
  · next small =>
      simp only [Option.some.injEq] at sent
      subst datagram
      exact receiveDbOnSocketImpl_encode (databasePayloadLen_le_iff.mp small).1 rfl
  · contradiction

end NodeinfoSystem.Collector
