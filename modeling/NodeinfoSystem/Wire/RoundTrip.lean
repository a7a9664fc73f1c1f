import NodeinfoSystem.Foundation.Records
import NodeinfoSystem.Wire.Database

/-!
# Round trips

What is written from a list or from a database is accepted by every reader of its
kind and read back as it was: the header, and the elements in their order. The
relay reads the addresses of a list as `int`, so what it reads is the list with
every address converted.
-/

namespace NodeinfoSystem.Wire

open Foundation

theorem wordAt_append_add (front rest : List UInt8) (offset : ℕ) :
    wordAt (front ++ rest) (front.length + offset) = wordAt rest offset := by
  rw [wordAt_append_of_le (Nat.le_add_right _ _), Nat.add_sub_cancel_left]

@[simp]
theorem wordAt_encodeWord_append_add (word : UInt32) (rest : List UInt8) (offset : ℕ) :
    wordAt (encodeWord word ++ rest) (offset + 4) = wordAt rest offset := by
  have shifted := wordAt_append_add (encodeWord word) rest offset
  rwa [length_encodeWord, Nat.add_comm] at shifted

/-! ## The records -/

def nodedataFormat {Address : Type} (layout : AddressLayout Address) :
    RecordFormat UInt8 (Nodedata Address) where
  size := nodedataSize
  size_pos := by decide
  encode := encodeNodedata layout
  decodeAt := nodedataAt layout
  length_encode := length_encodeNodedata layout
  decodeAt_append front node rest := by
    have here := wordAt_append_add front (encodeNodedata layout node ++ rest)
    have first := here 0
    simp only [Nat.add_zero] at first
    simp only [nodedataAt, intAt, here, first]
    simp [encodeNodedata, layout.ofWord_toWord]

def elementFormat : RecordFormat UInt8 NodeinfoDatabaseElement where
  size := nodeinfoDatabaseElementSize
  size_pos := by decide
  encode := encodeElement
  decodeAt := elementAt
  length_encode := length_encodeElement
  decodeAt_append front element rest := by
    have here := wordAt_append_add front (encodeElement element ++ rest)
    have first := here 0
    simp only [Nat.add_zero] at first
    simp only [elementAt, intAt, here, first]
    simp [encodeElement]

/-! ## Lists -/

section NodedataList

variable {Address : Type} (layout : AddressLayout Address)

theorem intAt_encodeNodedataList_maxSize (list : NodedataList Address) :
    intAt (encodeNodedataList layout list) 0 = list.maxSize := by
  simp [encodeNodedataList, intAt]

theorem intAt_encodeNodedataList_networkId (list : NodedataList Address) :
    intAt (encodeNodedataList layout list) 8 = list.networkId := by
  simp [encodeNodedataList, intAt]

theorem nodedatasIn_encodeNodedataList (list : NodedataList Address) :
    nodedatasIn layout (encodeNodedataList layout list) = list.entries := by
  have read := (nodedataFormat layout).decodeAll_append
    (encodeWord list.maxSize.toUInt32 ++ encodeWord list.currentSize.toUInt32 ++
      encodeWord list.networkId.toUInt32) [] list.entries
  have count : ((encodeNodedataList layout list).length - nodedataListSize) / nodedataSize =
      list.entries.length := by
    rw [length_encodeNodedataList, list.length_entries, Nat.add_sub_cancel_left,
      Nat.mul_div_cancel_left _ (by decide)]
  rw [List.append_nil] at read
  rw [nodedatasIn, count]
  exact read

end NodedataList

/-- A node of the collector as the relay reads it. -/
def relayNode (node : Nodedata UInt32) : Nodedata Int32 where
  ipaddress := node.ipaddress.toInt32
  userid := node.userid
  cpuCoreNum := node.cpuCoreNum

/-- A node of the relay with its address converted by `(uint32_t)`. -/
def collectorNode (node : Nodedata Int32) : Nodedata UInt32 where
  ipaddress := node.ipaddress.toUInt32
  userid := node.userid
  cpuCoreNum := node.cpuCoreNum

@[simp]
theorem collectorNode_relayNode (node : Nodedata UInt32) :
    collectorNode (relayNode node) = node := by
  simp [collectorNode, relayNode]

theorem nodedatasIn_relayAddress (bytes : List UInt8) :
    nodedatasIn relayAddress bytes =
      (nodedatasIn collectorAddress bytes).map relayNode := by
  rw [nodedatasIn, nodedatasIn, List.map_map]
  rfl

theorem accepted_encodeNodedataList {list : NodedataList UInt32} {datagram : Datagram}
    (nonneg : 0 ≤ list.currentSize.toInt)
    (bytes_eq : datagram.bytes = encodeNodedataList collectorAddress list) :
    nodedataListSize ≤ datagram.bytes.length ∧
      ¬datagram.bytes.length < expectedListSize datagram.bytes := by
  have length_eq := length_encodeNodedataList collectorAddress list
  have count_eq := intAt_encodeNodedataList_currentSize collectorAddress list
  rw [← bytes_eq] at length_eq count_eq
  simp only [nodedataListSize, nodedataSize] at length_eq
  refine ⟨?_, ?_⟩
  · simp only [nodedataListSize]
    omega
  · rw [Nat.not_lt, expectedListSize_le_iff datagram.fits, count_eq]
    omega

/-- What a reader returns for a written list: the same header and the same elements. -/
structure ReadBack {Address : Type} (convert : Nodedata UInt32 → Nodedata Address)
    (list : NodedataList UInt32) (received : NodedataList Address) : Prop where
  maxSize_eq : received.maxSize = list.maxSize
  currentSize_eq : received.currentSize = list.currentSize
  networkId_eq : received.networkId = list.networkId
  entries_eq : received.entries = list.entries.map convert

theorem readBack_overlay {Address : Type} {layout : AddressLayout Address}
    {convert : Nodedata UInt32 → Nodedata Address} {list : NodedataList UInt32}
    {datagram : Datagram} (bytes_eq : datagram.bytes = encodeNodedataList collectorAddress list)
    (converted : ∀ bytes,
      nodedatasIn layout bytes = (nodedatasIn collectorAddress bytes).map convert)
    (accepted : ¬datagram.bytes.length < expectedListSize datagram.bytes) :
    ReadBack convert list (overlayNodedataList layout datagram accepted) where
  maxSize_eq := by
    simp only [overlayNodedataList, bytes_eq, intAt_encodeNodedataList_maxSize]
  currentSize_eq := by
    simp only [overlayNodedataList, bytes_eq, intAt_encodeNodedataList_currentSize]
  networkId_eq := by
    simp only [overlayNodedataList, bytes_eq, intAt_encodeNodedataList_networkId]
  entries_eq := by
    simp only [overlayNodedataList, NodedataList.entries, bytes_eq, converted,
      nodedatasIn_encodeNodedataList, intAt_encodeNodedataList_currentSize]
    apply List.take_of_length_le
    rw [List.length_map]
    exact List.length_take_le _ _

theorem Relay.receiveNodedataList_encode {list : NodedataList UInt32} {datagram : Datagram}
    (nonneg : 0 ≤ list.currentSize.toInt)
    (bytes_eq : datagram.bytes = encodeNodedataList collectorAddress list) :
    ∃ received, Relay.receiveNodedataList true (some datagram) = some received ∧
      ReadBack relayNode list received := by
  rcases accepted_encodeNodedataList nonneg bytes_eq with ⟨headerArrived, accepted⟩
  refine ⟨overlayNodedataList relayAddress datagram accepted, ?_,
    readBack_overlay bytes_eq nodedatasIn_relayAddress accepted⟩
  simp [Relay.receiveNodedataList, Nat.not_lt.mpr headerArrived, accepted]

theorem Member.receiveNodedataList_encode {list : NodedataList UInt32} {datagram : Datagram}
    (nonneg : 0 ≤ list.currentSize.toInt)
    (bytes_eq : datagram.bytes = encodeNodedataList collectorAddress list) :
    ∃ received, Member.receiveNodedataList true true (some datagram) = some received ∧
      ReadBack id list received := by
  rcases accepted_encodeNodedataList nonneg bytes_eq with ⟨headerArrived, accepted⟩
  have notEmpty : ¬datagram.bytes.length = 0 := by
    simp only [nodedataListSize] at headerArrived
    omega
  refine ⟨overlayNodedataList collectorAddress datagram accepted, ?_,
    readBack_overlay bytes_eq (fun bytes => (List.map_id _).symm) accepted⟩
  simp only [Member.receiveNodedataList, if_true, if_neg notEmpty,
    if_neg (Nat.not_lt.mpr headerArrived), dif_neg accepted]

/-! ## Databases -/

theorem intAt_encodeNodeinfoDatabase_maxSize (db : NodeinfoDatabase) :
    intAt (encodeNodeinfoDatabase db) 0 = db.maxSize := by
  simp [encodeNodeinfoDatabase, intAt]

theorem elementsIn_encodeNodeinfoDatabase (db : NodeinfoDatabase) :
    elementsIn (encodeNodeinfoDatabase db) = db.entries := by
  have read := elementFormat.decodeAll_append
    (encodeWord db.maxSize.toUInt32 ++ encodeWord db.currentSize.toUInt32) [] db.entries
  have count : ((encodeNodeinfoDatabase db).length - nodeinfoDatabaseSize) /
      nodeinfoDatabaseElementSize = db.entries.length := by
    rw [length_encodeNodeinfoDatabase, length_entries_database, Nat.add_sub_cancel_left,
      Nat.mul_div_cancel_left _ (by decide)]
  rw [List.append_nil] at read
  rw [elementsIn, count]
  exact read

theorem receiveDbOnSocketImpl_encode {db : NodeinfoDatabase} {datagram : Datagram}
    (nonneg : 0 ≤ db.currentSize.toInt) (bytes_eq : datagram.bytes = encodeNodeinfoDatabase db) :
    ∃ received, receiveDbOnSocketImpl true (some datagram) = some received ∧
      received.maxSize = db.maxSize ∧ received.currentSize = db.currentSize ∧
      received.entries = db.entries := by
  rcases Option.isSome_iff_exists.mp (receiveDb_encode nonneg bytes_eq) with ⟨received, returned⟩
  refine ⟨received, returned, ?_⟩
  simp only [receiveDbOnSocketImpl, if_true] at returned
  split at returned
  · contradiction
  · split at returned
    · contradiction
    · split at returned
      · contradiction
      · simp only [Option.some.injEq] at returned
        subst received
        simp only [overlayNodeinfoDatabase, NodeinfoDatabase.entries, bytes_eq,
          intAt_encodeNodeinfoDatabase_maxSize, intAt_encodeNodeinfoDatabase_currentSize,
          elementsIn_encodeNodeinfoDatabase, true_and]
        rw [List.take_take, Nat.min_self]

end NodeinfoSystem.Wire
