import NodeinfoSystem.Collector.Joins

/-!
# What the resized list holds

`resize_nodedata_list` fills in the header of the new block field by field and copies the
elements. It assigns two of the three fields: the network id of the new list is whatever
the fresh memory held.
-/

namespace NodeinfoSystem.Collector

open Foundation

/-- A list and the one with twice its capacity that takes its place. -/
structure ListBlock.Grown (old new : ListBlock) : Prop where
  maxSize : new.maxSize.toInt = 2 * old.maxSize.toInt
  currentSize : new.currentSize = old.currentSize
  networkId : new.networkId = old.networkId
  entries : new.entries = old.entries

section Resize

variable {block : ListBlock}

theorem toInt_maxSize_resizedBlock (garbage : Garbage) (positive : 0 < block.maxSize.toInt)
    (small : block.maxSize.toInt ≤ 2 ^ 29) :
    (resizedBlock garbage block).maxSize.toInt = 2 * block.maxSize.toInt := by
  have doubled : (resizedBlock garbage block).maxSize = Int32.ofInt (block.maxSize.toInt * 2) := by
    rw [Int32.ofInt_mul, Int32.ofInt_toInt]
    rfl
  have fits : FitsInt (block.maxSize.toInt * 2) := ⟨by omega, by omega⟩
  rw [doubled, toInt_ofInt_of_fitsInt fits, Int.mul_comm]

theorem entries_resizedBlock (garbage : Garbage) (wellFormed : block.WellFormed) :
    (resizedBlock garbage block).entries = block.entries := by
  have counted := wellFormed.length_entries
  have count_eq : block.currentSize.toInt.toNat = block.entries.length := by omega
  rw [ListBlock.entries, resizedBlock, count_eq]
  exact List.take_left

/-- Everything but the network id is carried over, whatever the fresh memory held. -/
theorem grown_resizedBlock_iff (garbage : Garbage) (wellFormed : block.WellFormed)
    (positive : 0 < block.maxSize.toInt) (small : block.maxSize.toInt ≤ 2 ^ 29) :
    block.Grown (resizedBlock garbage block) ↔ garbage.networkId = block.networkId := by
  constructor
  · intro grown
    exact grown.networkId
  · intro same
    exact ⟨toInt_maxSize_resizedBlock garbage positive small, rfl, same,
      entries_resizedBlock garbage wellFormed⟩

theorem wellFormed_resizedBlock (garbage : Garbage) (wellFormed : block.WellFormed)
    (positive : 0 < block.maxSize.toInt) (small : block.maxSize.toInt ≤ 2 ^ 29) :
    (resizedBlock garbage block).WellFormed where
  nonneg := wellFormed.nonneg
  bounded := by
    have bounded := wellFormed.bounded
    rw [toInt_maxSize_resizedBlock garbage positive small]
    change block.currentSize.toInt ≤ _
    omega
  slots_length := by
    have counted := wellFormed.length_entries
    have nonneg := wellFormed.nonneg
    have bounded := wellFormed.bounded
    have maxSize_eq := toInt_maxSize_resizedBlock garbage positive small
    have allocated : (resizedBlock garbage block).slots.length =
        block.entries.length +
          ((resizedBlock garbage block).maxSize.toInt.toNat - block.currentSize.toInt.toNat) := by
      simp [resizedBlock, Garbage.block]
    omega

theorem exists_resized (garbage : Garbage) (stale : ListBlock) {list : Address}
    {heap : Heap ListBlock} (live : heap.load list = some block) :
    ∃ after, resizeNodedataList ⟨some garbage, stale⟩ list heap = (0, after) ∧
      after.load (heap.malloc (resizedBlock garbage block)).1 =
        some (resizedBlock garbage block) := by
  have read_eq : Environment.read ⟨some garbage, stale⟩ list heap = block := by
    rw [Environment.read, live, Option.getD_some]
  refine ⟨(heap.malloc (resizedBlock garbage block)).2.free list, ?_, ?_⟩
  · simp only [resizeNodedataList, read_eq]
  · have older : list ≠ (heap.malloc (resizedBlock garbage block)).1 :=
      Nat.ne_of_lt (Heap.lt_length_of_load live)
    rw [Heap.load_free_of_ne older]
    exact Heap.load_malloc heap _

end Resize

/--
The block that a resize builds is a grown copy of the list exactly when the fresh memory
happens to hold the network id of the list. The rest of it is always carried over.
-/
theorem resize_grown_iff (garbage : Garbage) (stale block : ListBlock) (list : Address)
    (heap : Heap ListBlock) (live : heap.load list = some block) (wellFormed : block.WellFormed)
    (positive : 0 < block.maxSize.toInt) (small : block.maxSize.toInt ≤ 2 ^ 29) :
    ∃ after new, resizeNodedataList ⟨some garbage, stale⟩ list heap = (0, after) ∧
      after.load (heap.malloc new).1 = some new ∧ new.WellFormed ∧
      (new.maxSize.toInt = 2 * block.maxSize.toInt ∧ new.currentSize = block.currentSize ∧
        new.entries = block.entries) ∧
      (block.Grown new ↔ garbage.networkId = block.networkId) := by
  rcases exists_resized garbage stale live with ⟨after, resized, built⟩
  exact ⟨after, resizedBlock garbage block, resized, built,
    wellFormed_resizedBlock garbage wellFormed positive small,
    ⟨toInt_maxSize_resizedBlock garbage positive small, rfl,
      entries_resizedBlock garbage wellFormed⟩,
    grown_resizedBlock_iff garbage wellFormed positive small⟩

/-- A full list of network 1 with the initial capacity. -/
def fullList : ListBlock where
  maxSize := 16
  currentSize := 16
  networkId := 1
  slots := List.replicate 16 ⟨21, 7, 4⟩

theorem wellFormed_fullList : fullList.WellFormed where
  nonneg := by decide
  bounded := by decide
  slots_length := by decide

theorem resize_grown_iff_fullList :
    ∃ after new, resizeNodedataList ⟨some zeros, fullList⟩ 0 ⟨[some fullList]⟩ = (0, after) ∧
      after.load ((Heap.mk [some fullList]).malloc new).1 = some new ∧ new.WellFormed ∧
      (new.maxSize.toInt = 2 * fullList.maxSize.toInt ∧
        new.currentSize = fullList.currentSize ∧ new.entries = fullList.entries) ∧
      (fullList.Grown new ↔ zeros.networkId = fullList.networkId) :=
  resize_grown_iff zeros fullList fullList 0 ⟨[some fullList]⟩ rfl wellFormed_fullList
    (by decide) (by decide)

/-- A resize into memory that is all zero loses the network id. -/
theorem not_forall_resize_grown : ¬∀ (garbage : Garbage) (stale block : ListBlock)
    (list : Address) (heap : Heap ListBlock), heap.load list = some block → block.WellFormed →
      0 < block.maxSize.toInt → block.maxSize.toInt ≤ 2 ^ 29 →
        ∃ after new, resizeNodedataList ⟨some garbage, stale⟩ list heap = (0, after) ∧
          after.load (heap.malloc new).1 = some new ∧ block.Grown new := by
  intro grows
  rcases grows zeros fullList fullList 0 ⟨[some fullList]⟩ rfl wellFormed_fullList (by decide)
    (by decide) with ⟨after, new, resized, built, grown⟩
  have live : (Heap.mk [some fullList]).load 0 = some fullList := rfl
  rcases exists_resized zeros fullList live with ⟨other, resizedHere, builtHere⟩
  rw [resizedHere, Prod.mk.injEq] at resized
  rcases resized with ⟨-, rfl⟩
  have new_eq : new = resizedBlock zeros fullList := Option.some.inj (built.symm.trans builtHere)
  have kept := grown.networkId
  rw [new_eq] at kept
  exact absurd kept (by decide)

end NodeinfoSystem.Collector
