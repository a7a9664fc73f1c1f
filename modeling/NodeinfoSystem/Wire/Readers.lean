import NodeinfoSystem.Wire.Layout

/-!
# The readers of `nodedata_list` datagrams

The relay and the member each have a `receive_nodedata_list`. They differ in the
calls around the check (the member copies the bytes into a second block and
treats an empty datagram as an error) but make the same two tests: the header
must have arrived, and the size computed from the element count in `size_t`
must not exceed the number of bytes received. The builds considered have a
64-bit `size_t`.

That computation wraps. The only count whose wrapped size is not what it seems
is `-1`: `12 + 12 * (size_t)-1` is zero, so a datagram with that count passes.
Everything else the readers accept is well formed.
-/

namespace NodeinfoSystem.Wire

def sizeBits : ℕ := 64

/-- `expected`, computed from the count of a `nodedata_list` header. -/
def expectedListSize (bytes : List UInt8) : ℕ :=
  Foundation.expectedSize sizeBits nodedataListSize nodedataSize (intAt bytes 4).toInt

theorem expectedListSize_le_iff {bytes : List UInt8} (fits : bytes.length ≤ maxUdpPayload) :
    expectedListSize bytes ≤ bytes.length ↔
      0 ≤ 12 + 12 * (intAt bytes 4).toInt ∧ 12 + 12 * (intAt bytes 4).toInt ≤ bytes.length := by
  have lower := Int32.le_toInt (intAt bytes 4)
  have upper := Int32.toInt_lt (intAt bytes 4)
  simp only [maxUdpPayload] at fits
  exact Foundation.expectedSize_le_iff
    (by simp only [sizeBits, nodedataListSize, nodedataSize]; omega)
    (by simp only [sizeBits, nodedataListSize, nodedataSize]; omega)

theorem currentSize_le_of_accepted {Address : Type} (layout : AddressLayout Address)
    {datagram : Datagram} (accepted : ¬datagram.bytes.length < expectedListSize datagram.bytes) :
    (intAt datagram.bytes 4).toInt ≤ (nodedatasIn layout datagram.bytes).length := by
  have exact_ := (expectedListSize_le_iff datagram.fits).mp (Nat.le_of_not_lt accepted)
  rw [length_nodedatasIn]
  simp only [nodedataListSize, nodedataSize]
  omega

/-- The bytes of a receive buffer seen as a list, once the size test has passed. -/
def overlayNodedataList {Address : Type} (layout : AddressLayout Address) (datagram : Datagram)
    (accepted : ¬datagram.bytes.length < expectedListSize datagram.bytes) :
    NodedataList Address where
  maxSize := intAt datagram.bytes 0
  currentSize := intAt datagram.bytes 4
  networkId := intAt datagram.bytes 8
  nodedatas := nodedatasIn layout datagram.bytes
  inBounds := currentSize_le_of_accepted layout accepted

namespace Relay

/--
`receive_nodedata_list` of the relay once its socket is bound. `granted` is the
outcome of `malloc`, and no datagram means that `recvfrom` reported an error.
-/
def receiveNodedataList (granted : Bool) (received : Option Datagram) :
    Option (NodedataList Int32) :=
  if granted then
    match received with
    | none => none
    | some datagram =>
        if datagram.bytes.length < nodedataListSize then none
        else if rejected : datagram.bytes.length < expectedListSize datagram.bytes then none
        else some (overlayNodedataList relayAddress datagram rejected)
  else none

end Relay

namespace Member

/--
`receive_nodedata_list` of a member once its socket is bound. The two flags are
the outcomes of the `malloc` calls for the buffer and for the copy.
-/
def receiveNodedataList (bufferGranted copyGranted : Bool) (received : Option Datagram) :
    Option (NodedataList UInt32) :=
  if bufferGranted then
    match received with
    | none => none
    | some datagram =>
        if datagram.bytes.length = 0 then none
        else if datagram.bytes.length < nodedataListSize then none
        else if copyGranted then
          if rejected : datagram.bytes.length < expectedListSize datagram.bytes then none
          else some (overlayNodedataList collectorAddress datagram rejected)
        else none
  else none

end Member

/-- What a caller of either reader may rely on: the count and the elements it names. -/
def WellFormedFor {Address : Type} (datagram : Datagram) (list : NodedataList Address) : Prop :=
  0 ≤ list.currentSize.toInt ∧ 12 + 12 * list.currentSize.toInt ≤ datagram.bytes.length

/-- Both readers return well-formed lists only, whatever the allocations answer. -/
def OnlyWellFormed (datagram : Datagram) : Prop :=
  (∀ granted list, Relay.receiveNodedataList granted (some datagram) = some list →
      WellFormedFor datagram list) ∧
    ∀ bufferGranted copyGranted list,
      Member.receiveNodedataList bufferGranted copyGranted (some datagram) = some list →
        WellFormedFor datagram list

/-- The header of a datagram arrived and its element count is `-1`. -/
def CountIsMinusOne (datagram : Datagram) : Prop :=
  nodedataListSize ≤ datagram.bytes.length ∧ (intAt datagram.bytes 4).toInt = -1

theorem wellFormedFor_overlay {Address : Type} {layout : AddressLayout Address}
    {datagram : Datagram} (headerArrived : nodedataListSize ≤ datagram.bytes.length)
    (accepted : ¬datagram.bytes.length < expectedListSize datagram.bytes)
    (notMinusOne : ¬CountIsMinusOne datagram) :
    WellFormedFor datagram (overlayNodedataList layout datagram accepted) := by
  have exact_ := (expectedListSize_le_iff datagram.fits).mp (Nat.le_of_not_lt accepted)
  have countNe : (intAt datagram.bytes 4).toInt ≠ -1 :=
    fun minusOne => notMinusOne ⟨headerArrived, minusOne⟩
  refine ⟨?_, exact_.2⟩
  simp only [overlayNodedataList]
  omega

theorem Relay.receiveNodedataList_eq_some {granted : Bool} {datagram : Datagram}
    {list : NodedataList Int32}
    (returned : Relay.receiveNodedataList granted (some datagram) = some list) :
    nodedataListSize ≤ datagram.bytes.length ∧
      ∃ accepted, list = overlayNodedataList relayAddress datagram accepted := by
  simp only [Relay.receiveNodedataList] at returned
  split at returned
  · split at returned
    · contradiction
    · next headerArrived =>
        split at returned
        · contradiction
        · next accepted =>
            exact ⟨Nat.le_of_not_lt headerArrived, accepted, (Option.some.inj returned).symm⟩
  · contradiction

theorem Member.receiveNodedataList_eq_some {bufferGranted copyGranted : Bool}
    {datagram : Datagram} {list : NodedataList UInt32}
    (returned : Member.receiveNodedataList bufferGranted copyGranted (some datagram) = some list) :
    nodedataListSize ≤ datagram.bytes.length ∧
      ∃ accepted, list = overlayNodedataList collectorAddress datagram accepted := by
  simp only [Member.receiveNodedataList] at returned
  split at returned
  · split at returned
    · contradiction
    · split at returned
      · contradiction
      · next headerArrived =>
          split at returned
          · split at returned
            · contradiction
            · next accepted =>
                exact ⟨Nat.le_of_not_lt headerArrived, accepted, (Option.some.inj returned).symm⟩
          · contradiction
  · contradiction

/-- A count of `-1` asks for zero bytes, so the relay returns the list it heads. -/
theorem Relay.receiveNodedataList_of_minusOne {datagram : Datagram}
    (minusOne : CountIsMinusOne datagram) :
    ∃ list, Relay.receiveNodedataList true (some datagram) = some list ∧
      list.currentSize.toInt = -1 := by
  rcases minusOne with ⟨headerArrived, count_eq⟩
  have accepted : ¬datagram.bytes.length < expectedListSize datagram.bytes := by
    rw [Nat.not_lt, expectedListSize_le_iff datagram.fits, count_eq]
    omega
  refine ⟨overlayNodedataList relayAddress datagram accepted, ?_, count_eq⟩
  simp [Relay.receiveNodedataList, Nat.not_lt.mpr headerArrived, accepted]

/-- The readers are sound on exactly the datagrams whose count is not `-1`. -/
theorem onlyWellFormed_iff (datagram : Datagram) :
    OnlyWellFormed datagram ↔ ¬CountIsMinusOne datagram := by
  constructor
  · rintro ⟨relaySound, -⟩ minusOne
    rcases Relay.receiveNodedataList_of_minusOne minusOne with ⟨list, returned, count_eq⟩
    have wellFormed := relaySound true list returned
    rw [WellFormedFor, count_eq] at wellFormed
    exact absurd wellFormed.1 (by decide)
  · intro notMinusOne
    refine ⟨?_, ?_⟩
    · intro granted list returned
      rcases Relay.receiveNodedataList_eq_some returned with ⟨headerArrived, accepted, rfl⟩
      exact wellFormedFor_overlay headerArrived accepted notMinusOne
    · intro bufferGranted copyGranted list returned
      rcases Member.receiveNodedataList_eq_some returned with ⟨headerArrived, accepted, rfl⟩
      exact wellFormedFor_overlay headerArrived accepted notMinusOne

/-- A header of 12 bytes whose count is `-1`. -/
def minusOneDatagram : Datagram where
  bytes := [16, 0, 0, 0, 255, 255, 255, 255, 1, 0, 0, 0]
  fits := by decide

/-- The relay accepts a bare header that announces `-1` elements. -/
theorem not_forall_onlyWellFormed : ¬∀ datagram, OnlyWellFormed datagram := by
  intro sound
  have minusOne : CountIsMinusOne minusOneDatagram := by
    constructor <;> decide
  rcases Relay.receiveNodedataList_of_minusOne minusOne with ⟨list, returned, count_eq⟩
  have wellFormed := (sound minusOneDatagram).1 true list returned
  rw [WellFormedFor, count_eq] at wellFormed
  exact absurd wellFormed.1 (by decide)

end NodeinfoSystem.Wire
