import NodeinfoSystem.Collector.RelayRequests
import NodeinfoSystem.Wire.Database

/-!
# What the database reader accepts

`receive_db_on_socket_impl` computes the size that the count of the header asks for in
`size_t`. In 64 bits the product of a 32-bit count and 24 cannot come back to a small
number, so the test is exact. In the 32 bits of the armeabi-v7a build it can: the size
wraps already for positive counts, and the reader also accepts the datagrams whose exact
size lies just above another multiple of `2 ^ 32`.
-/

namespace NodeinfoSystem.Collector

open Wire

/-! ## The reader for any width of `size_t` -/

/--
The buffer that `receive_db_on_socket_impl` returns in a build whose `size_t` has `width`
bits.
-/
def receiveDbBuffer (width : ℕ) (granted : Bool) (received : Option Datagram) : Option Datagram :=
  if granted then
    match received with
    | none => none
    | some datagram =>
        if datagram.bytes.length = 0 then none
        else if datagram.bytes.length < nodeinfoDatabaseSize then none
        else if datagram.bytes.length < expectedDatabaseSize width datagram.bytes then none
        else some datagram
  else none

section Buffer

variable {datagram buffer : Datagram} {width : ℕ}

theorem receiveDbBuffer_eq_some :
    receiveDbBuffer width true (some datagram) = some buffer ↔ datagram = buffer ∧
      nodeinfoDatabaseSize ≤ datagram.bytes.length ∧
        expectedDatabaseSize width datagram.bytes ≤ datagram.bytes.length := by
  have header_pos : 0 < nodeinfoDatabaseSize := by decide
  simp only [receiveDbBuffer, if_true]
  constructor
  · intro returned
    split at returned
    · contradiction
    · split at returned
      · contradiction
      · next header =>
          split at returned
          · contradiction
          · next accepted =>
              exact ⟨Option.some.inj returned, Nat.le_of_not_lt header, Nat.le_of_not_lt accepted⟩
  · rintro ⟨rfl, header, accepted⟩
    rw [if_neg (by omega), if_neg (Nat.not_lt.mpr header), if_neg (Nat.not_lt.mpr accepted)]

theorem receiveDb_eq_some_iff {db : NodeinfoDatabase} :
    receiveDbOnSocketImpl true (some datagram) = some db ↔
      ∃ accepted, receiveDbBuffer sizeBits true (some datagram) = some datagram ∧
        db = overlayNodeinfoDatabase datagram accepted := by
  have header_pos : 0 < nodeinfoDatabaseSize := by decide
  simp only [receiveDbBuffer_eq_some, receiveDbOnSocketImpl, if_true]
  constructor
  · intro returned
    split at returned
    · contradiction
    · split at returned
      · contradiction
      · next header =>
          split at returned
          · contradiction
          · next accepted =>
              exact ⟨accepted, ⟨trivial, Nat.le_of_not_lt header, Nat.le_of_not_lt accepted⟩,
                (Option.some.inj returned).symm⟩
  · rintro ⟨accepted, ⟨-, header, -⟩, rfl⟩
    rw [if_neg (by omega), if_neg (Nat.not_lt.mpr header), dif_neg accepted]

end Buffer

/-! ## The 64-bit build -/

/--
The reader returns a database exactly for the datagrams with a whole header, a count that
is not negative and all its elements. Any other reply to a fetch keeps the stored database.
-/
theorem receiveDb_isSome_iff (datagram : Datagram) :
    ((receiveDbOnSocketImpl true (some datagram)).isSome ↔
      8 ≤ datagram.bytes.length ∧ 0 ≤ (intAt datagram.bytes 4).toInt ∧
        8 + 24 * (intAt datagram.bytes 4).toInt ≤ datagram.bytes.length) ∧
      ∀ exchange stored, exchange.reply = .datagram datagram →
        (receiveDbOnSocketImpl true (some datagram)).isNone →
          fetchNodeinfoDatabase true exchange stored = (-1, stored) := by
  refine ⟨?_, ?_⟩
  · have exact_ := expectedDatabaseSize_le_iff datagram.fits
    constructor
    · intro returned
      rcases Option.isSome_iff_exists.mp returned with ⟨db, db_eq⟩
      rcases receiveDb_eq_some_iff.mp db_eq with ⟨-, buffer_eq, -⟩
      rcases receiveDbBuffer_eq_some.mp buffer_eq with ⟨-, header, accepted⟩
      rw [exact_] at accepted
      exact ⟨header, by omega, accepted.2⟩
    · rintro ⟨header, nonneg, inside⟩
      have accepted := exact_.mpr ⟨by omega, inside⟩
      have buffer_eq := receiveDbBuffer_eq_some.mpr ⟨Eq.refl datagram, header, accepted⟩
      rw [receiveDb_eq_some_iff.mpr ⟨Nat.not_lt.mpr accepted, buffer_eq, rfl⟩]
      rfl
  · intro exchange stored reply_eq rejected
    rw [Option.isNone_iff_eq_none] at rejected
    simp only [fetchNodeinfoDatabase]
    split
    · simp only [reply_eq, Reception.received, rejected]
    · rfl

/-! ## The 32-bit build -/

/-- The width of `size_t` in the armeabi-v7a build. -/
def sizeBits32 : ℕ := 32

/-- What the test of the reader is there for. -/
def CountInside (buffer : Datagram) : Prop :=
  0 ≤ (intAt buffer.bytes 4).toInt ∧ 8 + 24 * (intAt buffer.bytes 4).toInt ≤ buffer.bytes.length

/--
The bytes of the buffer that `print_nodeinfo_database` or `distribute_nodeinfo_database`
reads: the header, the elements below `current_size`, and the payload that is sent on.
-/
inductive ReadsByte (width : ℕ) (buffer : Datagram) : ℕ → Prop
  | header {offset : ℕ} (offset_lt : offset < nodeinfoDatabaseSize) :
      ReadsByte width buffer offset
  | element {index offset : ℕ} (index_lt : (index : ℤ) < (intAt buffer.bytes 4).toInt)
      (offset_lt : offset < nodeinfoDatabaseElementSize) :
      ReadsByte width buffer
        (nodeinfoDatabaseSize + nodeinfoDatabaseElementSize * index + offset)
  | payload {offset : ℕ} (offset_lt : offset < expectedDatabaseSize width buffer.bytes) :
      ReadsByte width buffer offset

theorem ReadsByte.lt_length {width offset : ℕ} {datagram buffer : Datagram}
    (reads : ReadsByte width buffer offset)
    (returned : receiveDbBuffer width true (some datagram) = some buffer)
    (inside : CountInside buffer) : offset < buffer.bytes.length := by
  rcases receiveDbBuffer_eq_some.mp returned with ⟨rfl, header, accepted⟩
  cases reads with
  | header offset_lt => exact Nat.lt_of_lt_of_le offset_lt header
  | element index_lt offset_lt =>
      have upper := inside.2
      simp only [nodeinfoDatabaseSize, nodeinfoDatabaseElementSize] at *
      omega
  | payload offset_lt => exact Nat.lt_of_lt_of_le offset_lt accepted

/--
The 32-bit reader is sound on a datagram exactly when the size that the count asks for
does not lie within the length of the datagram above another multiple of `2 ^ 32`. What
it then returns is only read inside the received bytes.
-/
theorem receiveDb32_sound_iff (datagram : Datagram) :
    ((∀ buffer, receiveDbBuffer sizeBits32 true (some datagram) = some buffer →
        CountInside buffer) ↔
      (8 ≤ datagram.bytes.length → ∀ wraps : ℤ, wraps ≠ 0 →
        ¬(2 ^ 32 * wraps ≤ 8 + 24 * (intAt datagram.bytes 4).toInt ∧
          8 + 24 * (intAt datagram.bytes 4).toInt ≤ 2 ^ 32 * wraps + datagram.bytes.length))) ∧
      ∀ buffer, receiveDbBuffer sizeBits32 true (some datagram) = some buffer →
        CountInside buffer → ∀ offset, ReadsByte sizeBits32 buffer offset →
          offset < buffer.bytes.length := by
  have fits := datagram.fits
  simp only [maxUdpPayload] at fits
  have small : (datagram.bytes.length : ℤ) < 2 ^ sizeBits32 := by
    simp only [sizeBits32]
    omega
  have accepted_iff : expectedDatabaseSize sizeBits32 datagram.bytes ≤ datagram.bytes.length ↔
      ∃ wraps : ℤ, 2 ^ 32 * wraps ≤ 8 + 24 * (intAt datagram.bytes 4).toInt ∧
        8 + 24 * (intAt datagram.bytes 4).toInt ≤ 2 ^ 32 * wraps + datagram.bytes.length :=
    Foundation.expectedSize_le_iff_exists small
  refine ⟨⟨?_, ?_⟩, ?_⟩
  · rintro sound header wraps wrapped ⟨lower, upper⟩
    have accepted := accepted_iff.mpr ⟨wraps, lower, upper⟩
    have inside := sound datagram (receiveDbBuffer_eq_some.mpr ⟨rfl, header, accepted⟩)
    rcases inside with ⟨nonneg, inside⟩
    omega
  · intro noWrap buffer returned
    rcases receiveDbBuffer_eq_some.mp returned with ⟨rfl, header, accepted⟩
    rcases accepted_iff.mp accepted with ⟨wraps, lower, upper⟩
    have zero : wraps = 0 := by
      by_contra wrapped
      exact noWrap header wraps wrapped ⟨lower, upper⟩
    subst wraps
    exact ⟨by omega, by omega⟩
  · intro buffer returned inside offset reads
    exact reads.lt_length returned inside

/-- Sixteen bytes whose count, 178956971, asks for sixteen bytes more than `2 ^ 32`. -/
def wrappedCountBytes : List UInt8 :=
  [0, 0, 0, 0, 0xAB, 0xAA, 0xAA, 0x0A, 0, 0, 0, 0, 0, 0, 0, 0]

theorem wrappedCountBytes_fits : wrappedCountBytes.length ≤ maxUdpPayload := by decide

/-- The reader returns this datagram, which is shorter than the elements it announces. -/
theorem not_forall_receiveDb32_sound : ¬∀ datagram buffer : Datagram,
    receiveDbBuffer sizeBits32 true (some datagram) = some buffer →
      CountInside buffer ∧ ∀ offset, ReadsByte sizeBits32 buffer offset →
        offset < buffer.bytes.length := by
  intro sound
  have returned : receiveDbBuffer sizeBits32 true
      (some ⟨wrappedCountBytes, wrappedCountBytes_fits⟩) =
        some ⟨wrappedCountBytes, wrappedCountBytes_fits⟩ := by
    rw [receiveDbBuffer_eq_some]
    exact ⟨rfl, by decide, by decide⟩
  have inside := (sound _ _ returned).1.2
  exact absurd inside (by decide)

end NodeinfoSystem.Collector
