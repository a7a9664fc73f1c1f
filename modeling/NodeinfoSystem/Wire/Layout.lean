import NodeinfoSystem.Foundation.SizeCheck
import NodeinfoSystem.Types
import Mathlib.Data.List.TakeDrop
import Mathlib.Data.List.GetD

/-!
# Byte layout of the structures

Both programs send a structure by handing its memory to `sendto` and read one by
casting the receive buffer. The supported builds are little-endian, `int` and
`uint32_t` have four bytes, and none of the structures has padding: a
`struct nodedata_list` header and a `struct nodedata` have 12 bytes each, a
`struct nodeinfo_database` header has 8 and an element 24.
-/

namespace NodeinfoSystem.Wire

/-- `MAX_UDP_PAYLOAD`, the size of every receive buffer. -/
def maxUdpPayload : ℕ := 65535

/-- The bytes `recvfrom` stored in a receive buffer. -/
structure Datagram where
  bytes : List UInt8
  /-- A datagram is no longer than the buffer it is received into. -/
  fits : bytes.length ≤ maxUdpPayload

/-- The four bytes of a word, least significant first. -/
def encodeWord (word : UInt32) : List UInt8 :=
  [UInt8.ofNat word.toNat, UInt8.ofNat (word.toNat / 2 ^ 8), UInt8.ofNat (word.toNat / 2 ^ 16),
    UInt8.ofNat (word.toNat / 2 ^ 24)]

/-- The word at the start of `bytes`. -/
def decodeWord : List UInt8 → UInt32
  | b0 :: b1 :: b2 :: b3 :: _ =>
      UInt32.ofNat (b0.toNat + 2 ^ 8 * b1.toNat + 2 ^ 16 * b2.toNat + 2 ^ 24 * b3.toNat)
  | _ => 0

def wordAt (bytes : List UInt8) (offset : ℕ) : UInt32 :=
  decodeWord (bytes.drop offset)

def intAt (bytes : List UInt8) (offset : ℕ) : Int32 :=
  (wordAt bytes offset).toInt32

@[simp]
theorem length_encodeWord (word : UInt32) : (encodeWord word).length = 4 := rfl

@[simp]
theorem decodeWord_encodeWord_append (word : UInt32) (rest : List UInt8) :
    decodeWord (encodeWord word ++ rest) = word := by
  have bound := word.toNat_lt
  simp only [encodeWord, decodeWord, List.cons_append, List.nil_append, UInt8.toNat_ofNat']
  rw [← UInt32.toNat_inj, UInt32.toNat_ofNat']
  omega

theorem wordAt_append_of_le {front rest : List UInt8} {offset : ℕ}
    (after : front.length ≤ offset) :
    wordAt (front ++ rest) offset = wordAt rest (offset - front.length) := by
  rw [wordAt, wordAt, List.drop_append, List.drop_of_length_le after, List.nil_append]

theorem decodeWord_take {bytes : List UInt8} {length : ℕ} (enough : 4 ≤ length) :
    decodeWord (bytes.take length) = decodeWord bytes := by
  obtain ⟨more, rfl⟩ := Nat.exists_eq_add_of_le' enough
  match bytes with
  | [] | [_] | [_, _] | [_, _, _] => simp
  | b0 :: b1 :: b2 :: b3 :: rest => rfl

theorem wordAt_take {bytes : List UInt8} {length offset : ℕ} (inside : offset + 4 ≤ length) :
    wordAt (bytes.take length) offset = wordAt bytes offset := by
  rw [wordAt, wordAt, List.drop_take, decodeWord_take (by omega)]

@[simp]
theorem wordAt_encodeWord_append (word : UInt32) (rest : List UInt8) :
    wordAt (encodeWord word ++ rest) 0 = word := by
  simp [wordAt]

/-! ## `struct nodedata` and `struct nodedata_list` -/

/-- `sizeof(struct nodedata_list)`. -/
def nodedataListSize : ℕ := 12

/-- `sizeof(struct nodedata)`. -/
def nodedataSize : ℕ := 12

/-- How a program stores the four address bytes of a `struct nodedata`. -/
structure AddressLayout (Address : Type) where
  toWord : Address → UInt32
  ofWord : UInt32 → Address
  ofWord_toWord : ∀ address, ofWord (toWord address) = address
  toWord_ofWord : ∀ word, toWord (ofWord word) = word

/-- The collector's `uint32_t ipaddress`. -/
def collectorAddress : AddressLayout UInt32 where
  toWord := id
  ofWord := id
  ofWord_toWord _ := rfl
  toWord_ofWord _ := rfl

/-- The relay's `int ipaddress`. -/
def relayAddress : AddressLayout Int32 where
  toWord := Int32.toUInt32
  ofWord := UInt32.toInt32
  ofWord_toWord := Int32.toInt32_toUInt32
  toWord_ofWord := UInt32.toUInt32_toInt32

section NodedataList

variable {Address : Type} (layout : AddressLayout Address)

def encodeNodedata (node : Nodedata Address) : List UInt8 :=
  encodeWord (layout.toWord node.ipaddress) ++ encodeWord node.userid.toUInt32 ++
    encodeWord node.cpuCoreNum.toUInt32

def nodedataAt (bytes : List UInt8) (offset : ℕ) : Nodedata Address where
  ipaddress := layout.ofWord (wordAt bytes offset)
  userid := intAt bytes (offset + 4)
  cpuCoreNum := intAt bytes (offset + 8)

/-- The bytes sent for a list: the header and `current_size` elements. -/
def encodeNodedataList (list : NodedataList Address) : List UInt8 :=
  encodeWord list.maxSize.toUInt32 ++ encodeWord list.currentSize.toUInt32 ++
    encodeWord list.networkId.toUInt32 ++ list.entries.flatMap (encodeNodedata layout)

/-- The whole elements that lie in the bytes after the header. -/
def nodedatasIn (bytes : List UInt8) : List (Nodedata Address) :=
  (List.range ((bytes.length - nodedataListSize) / nodedataSize)).map fun index =>
    nodedataAt layout bytes (nodedataListSize + nodedataSize * index)

@[simp]
theorem length_encodeNodedata (node : Nodedata Address) :
    (encodeNodedata layout node).length = nodedataSize := rfl

theorem length_encodeNodedataList (list : NodedataList Address) :
    (encodeNodedataList layout list).length =
      nodedataListSize + nodedataSize * list.currentSize.toInt.toNat := by
  simp only [encodeNodedataList, List.length_append, length_encodeWord, List.length_flatMap,
    length_encodeNodedata, List.map_const', List.sum_replicate_nat, list.length_entries,
    nodedataListSize, nodedataSize]
  omega

@[simp]
theorem length_nodedatasIn (bytes : List UInt8) :
    (nodedatasIn layout bytes).length = (bytes.length - nodedataListSize) / nodedataSize := by
  simp [nodedatasIn]

theorem intAt_encodeNodedataList_currentSize (list : NodedataList Address) :
    intAt (encodeNodedataList layout list) 4 = list.currentSize := by
  rw [encodeNodedataList, List.append_assoc, List.append_assoc, intAt,
    wordAt_append_of_le (by simp), length_encodeWord, Nat.sub_self, wordAt_encodeWord_append,
    Int32.toInt32_toUInt32]

end NodedataList

end NodeinfoSystem.Wire
