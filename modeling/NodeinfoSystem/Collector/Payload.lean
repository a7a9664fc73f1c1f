import NodeinfoSystem.Collector.Joins
import NodeinfoSystem.Wire.Database

/-!
# The payloads a master sends

`send_nodedata_list_to_members` and `distribute_nodeinfo_database` hand the memory
of the list or of the database to `sendto`, with a length computed from the
element count in `size_t`. What they send for a well-formed list and for a
database that was itself received is accepted by the members.
-/

namespace NodeinfoSystem.Collector

open Wire

/-- The largest payload of an IPv4 datagram. -/
def maxIpv4Payload : ℕ := 65507

/-- The memory behind a pointer to a list: the header and the slots after it. -/
def listMemory (block : ListBlock) : List UInt8 :=
  encodeWord block.maxSize.toUInt32 ++ encodeWord block.currentSize.toUInt32 ++
    encodeWord block.networkId.toUInt32 ++
    block.slots.flatMap (encodeNodedata collectorAddress)

def listPayloadLen (block : ListBlock) : ℕ :=
  Foundation.expectedSize sizeBits nodedataListSize nodedataSize block.currentSize.toInt

/-- The datagram `sendto` sends for a list, unless it is too long. -/
def listPayload (block : ListBlock) : Option Datagram :=
  if small : listPayloadLen block ≤ maxIpv4Payload then
    some {
      bytes := (listMemory block).take (listPayloadLen block)
      fits := by
        simp only [maxIpv4Payload] at small
        simp only [List.length_take, maxUdpPayload]
        omega }
  else none

def databasePayloadLen (db : NodeinfoDatabase) : ℕ :=
  Foundation.expectedSize sizeBits nodeinfoDatabaseSize nodeinfoDatabaseElementSize
    db.currentSize.toInt

theorem databasePayloadLen_le_iff {db : NodeinfoDatabase} :
    databasePayloadLen db ≤ maxIpv4Payload ↔
      0 ≤ db.currentSize.toInt ∧ 8 + 24 * db.currentSize.toInt ≤ maxIpv4Payload := by
  have lower := Int32.le_toInt db.currentSize
  have upper := Int32.toInt_lt db.currentSize
  rw [databasePayloadLen, Foundation.expectedSize_le_iff]
  · simp only [nodeinfoDatabaseSize, nodeinfoDatabaseElementSize]
    omega
  · simp only [sizeBits, maxIpv4Payload, nodeinfoDatabaseSize, nodeinfoDatabaseElementSize]
    omega
  · simp only [sizeBits, nodeinfoDatabaseSize, nodeinfoDatabaseElementSize]
    omega

theorem length_le_maxUdpPayload {db : NodeinfoDatabase}
    (small : databasePayloadLen db ≤ maxIpv4Payload) :
    (encodeNodeinfoDatabase db).length ≤ maxUdpPayload := by
  have bounds := databasePayloadLen_le_iff.mp small
  rw [length_encodeNodeinfoDatabase]
  simp only [maxIpv4Payload] at bounds
  simp only [maxUdpPayload, nodeinfoDatabaseSize, nodeinfoDatabaseElementSize]
  omega

/-- The datagram `sendto` sends for a database, unless it is too long. -/
def databasePayload (db : NodeinfoDatabase) : Option Datagram :=
  if small : databasePayloadLen db ≤ maxIpv4Payload then
    some ⟨encodeNodeinfoDatabase db, length_le_maxUdpPayload small⟩
  else none

theorem receiveDb_databasePayload {db : NodeinfoDatabase} {datagram : Datagram}
    (sent : databasePayload db = some datagram) :
    (receiveDbOnSocketImpl true (some datagram)).isSome := by
  simp only [databasePayload] at sent
  split at sent
  · next small =>
      simp only [Option.some.injEq] at sent
      subst datagram
      exact receiveDb_encode (databasePayloadLen_le_iff.mp small).1 rfl
  · contradiction

theorem length_listMemory (block : ListBlock) :
    (listMemory block).length = 12 + 12 * block.slots.length := by
  simp only [listMemory, List.length_append, length_encodeWord, List.length_flatMap,
    length_encodeNodedata, List.map_const', List.sum_replicate_nat, nodedataSize]
  omega

theorem listPayloadLen_eq {block : ListBlock} (nonneg : 0 ≤ block.currentSize.toInt) :
    (listPayloadLen block : ℤ) = 12 + 12 * block.currentSize.toInt := by
  have upper := Int32.toInt_lt block.currentSize
  rw [listPayloadLen, Foundation.natCast_expectedSize]
  simp only [sizeBits, nodedataListSize, nodedataSize]
  omega

theorem intAt_listMemory_currentSize (block : ListBlock) :
    intAt (listMemory block) 4 = block.currentSize := by
  rw [listMemory, List.append_assoc, List.append_assoc, intAt,
    wordAt_append_of_le (by simp), length_encodeWord, Nat.sub_self, wordAt_encodeWord_append,
    Int32.toInt32_toUInt32]

theorem receiveNodedataList_listPayload {block : ListBlock} {datagram : Datagram}
    (wellFormed : block.WellFormed) (sent : listPayload block = some datagram) :
    (Member.receiveNodedataList true true (some datagram)).isSome := by
  have nonneg := wellFormed.nonneg
  have length_eq := listPayloadLen_eq nonneg
  have bounded := wellFormed.bounded
  have slots_length := wellFormed.slots_length
  have memory_length := length_listMemory block
  simp only [listPayload] at sent
  split at sent
  · simp only [Option.some.injEq] at sent
    have bytes_eq : datagram.bytes = (listMemory block).take (listPayloadLen block) := by
      rw [← sent]
    have bytes_length : datagram.bytes.length = listPayloadLen block := by
      rw [bytes_eq, List.length_take]
      omega
    have count_eq : intAt datagram.bytes 4 = block.currentSize := by
      rw [bytes_eq, intAt, wordAt_take (by omega)]
      exact intAt_listMemory_currentSize block
    have accepted : ¬datagram.bytes.length < expectedListSize datagram.bytes := by
      rw [Nat.not_lt, expectedListSize_le_iff datagram.fits, count_eq]
      omega
    have notEmpty : datagram.bytes.length ≠ 0 := by omega
    have headerArrived : ¬datagram.bytes.length < 12 := by omega
    simp [Member.receiveNodedataList, notEmpty, headerArrived, accepted, nodedataListSize]
  · contradiction

end NodeinfoSystem.Collector
