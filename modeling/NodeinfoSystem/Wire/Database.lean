import NodeinfoSystem.Wire.Readers

/-!
# `nodeinfo_database` datagrams

A database is sent as its header of 8 bytes followed by the elements in use, of
24 bytes each, and read by `receive_db_on_socket_impl`, which makes the same two
tests as the list readers. No 64-bit wrap can hide a negative count here: `8` is
not a multiple of `24`.
-/

namespace NodeinfoSystem.Wire

/-- `sizeof(struct nodeinfo_database)`. -/
def nodeinfoDatabaseSize : ℕ := 8

/-- `sizeof(struct nodeinfo_database_element)`. -/
def nodeinfoDatabaseElementSize : ℕ := 24

def encodeElement (element : NodeinfoDatabaseElement) : List UInt8 :=
  encodeWord element.networkId.toUInt32 ++ encodeWord element.ipaddress ++
    encodeWord element.userid.toUInt32 ++ encodeWord element.cpuCoreNum.toUInt32 ++
    encodeWord element.controlPortNum.toUInt32 ++ encodeWord element.messagePortNum.toUInt32

def elementAt (bytes : List UInt8) (offset : ℕ) : NodeinfoDatabaseElement where
  networkId := intAt bytes offset
  ipaddress := wordAt bytes (offset + 4)
  userid := intAt bytes (offset + 8)
  cpuCoreNum := intAt bytes (offset + 12)
  controlPortNum := intAt bytes (offset + 16)
  messagePortNum := intAt bytes (offset + 20)

/-- The bytes sent for a database: the header and `current_size` elements. -/
def encodeNodeinfoDatabase (db : NodeinfoDatabase) : List UInt8 :=
  encodeWord db.maxSize.toUInt32 ++ encodeWord db.currentSize.toUInt32 ++
    db.entries.flatMap encodeElement

/-- The whole elements that lie in the bytes after the header. -/
def elementsIn (bytes : List UInt8) : List NodeinfoDatabaseElement :=
  (List.range ((bytes.length - nodeinfoDatabaseSize) / nodeinfoDatabaseElementSize)).map
    fun index => elementAt bytes (nodeinfoDatabaseSize + nodeinfoDatabaseElementSize * index)

/-- `expected`, computed from the count of a `nodeinfo_database` header in `width` bits. -/
def expectedDatabaseSize (width : ℕ) (bytes : List UInt8) : ℕ :=
  Foundation.expectedSize width nodeinfoDatabaseSize nodeinfoDatabaseElementSize
    (intAt bytes 4).toInt

theorem expectedDatabaseSize_le_iff {bytes : List UInt8} (fits : bytes.length ≤ maxUdpPayload) :
    expectedDatabaseSize sizeBits bytes ≤ bytes.length ↔
      0 ≤ 8 + 24 * (intAt bytes 4).toInt ∧ 8 + 24 * (intAt bytes 4).toInt ≤ bytes.length := by
  have lower := Int32.le_toInt (intAt bytes 4)
  have upper := Int32.toInt_lt (intAt bytes 4)
  simp only [maxUdpPayload] at fits
  apply Foundation.expectedSize_le_iff
  · simp only [sizeBits, nodeinfoDatabaseSize, nodeinfoDatabaseElementSize]
    omega
  · simp only [sizeBits, nodeinfoDatabaseSize, nodeinfoDatabaseElementSize]
    omega

theorem databaseCurrentSize_le_of_accepted {datagram : Datagram}
    (accepted : ¬datagram.bytes.length < expectedDatabaseSize sizeBits datagram.bytes) :
    (intAt datagram.bytes 4).toInt ≤ (elementsIn datagram.bytes).length := by
  have exact_ := (expectedDatabaseSize_le_iff datagram.fits).mp (Nat.le_of_not_lt accepted)
  simp only [elementsIn, List.length_map, List.length_range, nodeinfoDatabaseSize,
    nodeinfoDatabaseElementSize]
  omega

/-- The bytes of a receive buffer seen as a database, once the size test has passed. -/
def overlayNodeinfoDatabase (datagram : Datagram)
    (accepted : ¬datagram.bytes.length < expectedDatabaseSize sizeBits datagram.bytes) :
    NodeinfoDatabase where
  maxSize := intAt datagram.bytes 0
  currentSize := intAt datagram.bytes 4
  elements := elementsIn datagram.bytes
  inBounds := databaseCurrentSize_le_of_accepted accepted

/--
`receive_db_on_socket_impl`. `granted` is the outcome of `malloc`, and no
datagram means that `recvfrom` reported an error or a timeout.
-/
def receiveDbOnSocketImpl (granted : Bool) (received : Option Datagram) :
    Option NodeinfoDatabase :=
  if granted then
    match received with
    | none => none
    | some datagram =>
        if datagram.bytes.length = 0 then none
        else if datagram.bytes.length < nodeinfoDatabaseSize then none
        else if rejected : datagram.bytes.length < expectedDatabaseSize sizeBits datagram.bytes then
          none
        else some (overlayNodeinfoDatabase datagram rejected)
  else none

@[simp]
theorem length_encodeElement (element : NodeinfoDatabaseElement) :
    (encodeElement element).length = nodeinfoDatabaseElementSize := rfl

theorem length_entries_database (db : NodeinfoDatabase) :
    db.entries.length = db.currentSize.toInt.toNat := by
  have := db.inBounds
  simp only [NodeinfoDatabase.entries, List.length_take]
  omega

theorem length_encodeNodeinfoDatabase (db : NodeinfoDatabase) :
    (encodeNodeinfoDatabase db).length =
      nodeinfoDatabaseSize + nodeinfoDatabaseElementSize * db.currentSize.toInt.toNat := by
  simp only [encodeNodeinfoDatabase, List.length_append, length_encodeWord, List.length_flatMap,
    length_encodeElement, List.map_const', List.sum_replicate_nat, length_entries_database,
    nodeinfoDatabaseSize, nodeinfoDatabaseElementSize]
  omega

theorem intAt_encodeNodeinfoDatabase_currentSize (db : NodeinfoDatabase) :
    intAt (encodeNodeinfoDatabase db) 4 = db.currentSize := by
  rw [encodeNodeinfoDatabase, List.append_assoc, intAt, wordAt_append_of_le (by simp),
    length_encodeWord, Nat.sub_self, wordAt_encodeWord_append, Int32.toInt32_toUInt32]

theorem receiveDb_encode {db : NodeinfoDatabase} {datagram : Datagram}
    (nonneg : 0 ≤ db.currentSize.toInt) (bytes_eq : datagram.bytes = encodeNodeinfoDatabase db) :
    (receiveDbOnSocketImpl true (some datagram)).isSome := by
  have length_eq := length_encodeNodeinfoDatabase db
  rw [← bytes_eq] at length_eq
  simp only [nodeinfoDatabaseSize, nodeinfoDatabaseElementSize] at length_eq
  have count_eq := intAt_encodeNodeinfoDatabase_currentSize db
  rw [← bytes_eq] at count_eq
  have accepted : ¬datagram.bytes.length < expectedDatabaseSize sizeBits datagram.bytes := by
    rw [Nat.not_lt, expectedDatabaseSize_le_iff datagram.fits, count_eq]
    omega
  have notEmpty : datagram.bytes.length ≠ 0 := by omega
  have headerArrived : ¬datagram.bytes.length < 8 := by omega
  simp [receiveDbOnSocketImpl, notEmpty, headerArrived, accepted, nodeinfoDatabaseSize]

end NodeinfoSystem.Wire
