import NodeinfoSystem.Database.Capacity

/-!
# The bounds of the database array

A list that the reader lets through has at most 5460 nodes, and there are never more
entries than ports. An update then asks for less than 65536 slots, which is 16 doubled
twelve times, so that the capacity never grows beyond it and no computation leaves the
range of `int`. The capacity is reserved for the whole list before the add loop starts,
so the loop never finds the block full.
-/

namespace NodeinfoSystem.Database

open Foundation

/-! ## What an update asks for and which slots it uses -/

/-- An iteration of the add loop tests in this state whether the block is full. -/
inductive TestsRoom (call : Call) (before searched : State) : Prop
  | intro {ready start : State} {earlier later : List (Nodedata Int32)} {node : Nodedata Int32}
      {ctrlPort msgPort : ℤ} (starts : StartsLoop call.os call.list before ready)
      (nodes_eq : call.list.entries = earlier ++ node :: later)
      (ran : addNodes call.os call.list.networkId earlier ready = some start)
      (ports : PortsFound call.os start ctrlPort msgPort searched) :
      TestsRoom call before searched

/-- The test of the growth branch. -/
def IsFull (state : State) : Prop :=
  ∃ block, state.gDb = some block ∧ block.maxSize ≤ block.elements.length

/-- An update reads or writes the slot `index` of a block with `maxSize` slots. -/
inductive Accesses (call : Call) (before : State) : ℕ → ℕ → Prop
  /-- By the removal loop. -/
  | removal {block : Block} {index : ℕ} (present : before.gDb = some block)
      (index_mem : index ∈
        removeAccesses (isObsolete call.list) block.elements.length 0 block.elements) :
      Accesses call before block.maxSize index
  /-- By the copy out of a block that is too small. -/
  | copiedFrom {block : Block} {index : ℕ}
      (present : (removeObsolete call.list before).gDb = some block)
      (index_lt : index < block.elements.length) : Accesses call before block.maxSize index
  /-- By the copy into the block that takes its place. -/
  | copiedTo {newCap : ℤ} {index : ℕ}
      (doubled : growCapacity (askedCapacity call.list before) 32
        (startCapacity (removeObsolete call.list before)) = some newCap)
      (index_lt : index < (removeObsolete call.list before).entries.length) :
      Accesses call before newCap.toNat index
  /-- By the add loop, after the growth branch. -/
  | appended {searched grownState : State} {block : Block} {code : ℤ}
      (tests : TestsRoom call before searched)
      (grown : growIfFull call.os searched = some (code, grownState)) (success : ¬code < 0)
      (present : grownState.gDb = some block) :
      Accesses call before block.maxSize block.elements.length
  /-- By the copy for the caller. -/
  | snapshot {after : State} {block : Block} {index : ℕ}
      (stepped : manager.step before call = some after) (present : after.gDb = some block)
      (index_lt : index < block.elements.length) : Accesses call before block.maxSize index

/-- What the array, the capacity and the computations of one update satisfy. -/
structure UpdateInBounds (call : Call) (before after : State) : Prop where
  block : ∃ block, after.gDb = some block ∧ (block.maxSize : ℤ) = after.gDbCapacity ∧
    block.elements.length ≤ block.maxSize
  accesses : ∀ maxSize index, Accesses call before maxSize index → index < maxSize
  noGrowth : ∀ searched, TestsRoom call before searched → ¬IsFull searched
  capacity : ∃ doublings : ℕ, after.gDbCapacity = 16 * 2 ^ doublings ∧ after.gDbCapacity ≤ 65536
  need_fits : FitsInt (needCapacity call.list before)
  doubling_ends : ∃ newCap, growCapacity (askedCapacity call.list before) 32
    (startCapacity (removeObsolete call.list before)) = some newCap

/-! ## The capacity is a doubled 16 -/

theorem growCapacity_eq {need capacity newCap : ℤ} {rounds : ℕ}
    (grown : growCapacity need rounds capacity = some newCap) :
    ∃ doublings : ℕ, newCap = capacity * 2 ^ doublings ∧ (doublings = 0 ∨ newCap < 2 * need) := by
  induction rounds generalizing capacity with
  | zero => simp [growCapacity] at grown
  | succ rounds ih =>
      rw [growCapacity] at grown
      split at grown
      · next short =>
          split at grown
          · contradiction
          · next doubled computed =>
              have doubled_eq := eq_of_checkedInt computed
              rcases ih grown with ⟨doublings, newCap_eq, bounded⟩
              refine ⟨doublings + 1, ?_, Or.inr ?_⟩
              · rw [newCap_eq, doubled_eq, Int.pow_succ, Int.mul_assoc, Int.mul_comm 2]
              · rcases bounded with rfl | bounded
                · rw [newCap_eq]
                  omega
                · exact bounded
      · simp only [Option.some.injEq] at grown
        exact ⟨0, by rw [← grown]; simp, Or.inl rfl⟩

/-- 16, doubled at most twelve times. -/
def IsDoubled (capacity : ℤ) : Prop :=
  ∃ doublings : ℕ, doublings ≤ 12 ∧ capacity = 16 * 2 ^ doublings

theorem IsDoubled.le {capacity : ℤ} (doubled : IsDoubled capacity) : capacity ≤ 65536 := by
  rcases doubled with ⟨doublings, few, rfl⟩
  have powers : (2 : ℤ) ^ doublings ≤ 2 ^ 12 := by
    exact_mod_cast Nat.pow_le_pow_right (by decide : 0 < 2) few
  omega

/-- A capacity that is only doubled while it is below half of 65536 stays a doubled 16. -/
theorem IsDoubled.growCapacity {need capacity newCap : ℤ} {rounds : ℕ}
    (doubled : IsDoubled capacity) (need_le : need ≤ 65536)
    (grown : Database.growCapacity need rounds capacity = some newCap) : IsDoubled newCap := by
  rcases growCapacity_eq grown with ⟨doublings, newCap_eq, bounded⟩
  rcases doubled with ⟨before, few, rfl⟩
  rcases bounded with rfl | bounded
  · exact ⟨before, few, by rw [newCap_eq]; simp⟩
  · have total_eq : newCap = 16 * 2 ^ (before + doublings) := by
      rw [newCap_eq, Int.pow_add, Int.mul_assoc]
    refine ⟨before + doublings, ?_, total_eq⟩
    by_contra many
    have powers : (2 : ℤ) ^ 13 ≤ 2 ^ (before + doublings) := by
      exact_mod_cast Nat.pow_le_pow_right (by decide : 0 < 2) (Nat.lt_of_not_le many)
    omega

/-- What holds between the updates: the capacity of the database is a doubled 16. -/
structure Bounded (state : State) : Prop where
  managed : Managed state
  doubled : state.gDb.isSome → IsDoubled state.gDbCapacity

/-- What a list that the reader of the relay lets through promises. -/
def SmallList (list : NodedataList Int32) : Prop :=
  -1 ≤ list.currentSize.toInt ∧ list.currentSize.toInt ≤ 5460

section Update

variable {os : Os} {call : Call} {list : NodedataList Int32} {before after state : State}

theorem Bounded.initial : Bounded State.initial where
  managed := .initial
  doubled present := by simp [State.initial] at present

theorem Bounded.isDoubled_startCapacity (bounded : Bounded state) :
    IsDoubled (startCapacity state) := by
  have sized := bounded.managed.sized
  unfold startCapacity
  cases present : state.gDb with
  | none => exact ⟨0, by decide, by simp [sized.absent present]⟩
  | some block =>
      have positive := sized.capacity_pos block present
      have capacity_eq := sized.capacity_eq block present
      rw [if_pos (by omega)]
      exact bounded.doubled (by simp [present])

theorem Bounded.removeObsolete (bounded : Bounded state) (list : NodedataList Int32) :
    Bounded (removeObsolete list state) where
  managed := by
    refine ⟨bounded.managed.sized.removeObsolete list, ?_⟩
    rw [entries_removeObsolete]
    exact bounded.managed.isolated.subperm (removeWhere_subperm _ _)
  doubled := by
    unfold Database.removeObsolete
    cases present : state.gDb with
    | none => exact bounded.doubled
    | some block => exact fun _ => bounded.doubled (by simp [present])

theorem askedCapacity_le (bounded : Bounded before) (small : SmallList list) :
    askedCapacity list before ≤ 60996 := by
  have need_le := (needCapacity_le list bounded.managed.isolated).2
  have upper := small.2
  simp only [portCount] at need_le
  simp only [askedCapacity]
  split <;> omega

theorem fitsInt_needCapacity (bounded : Bounded before) (small : SmallList list) :
    FitsInt (needCapacity list before) := by
  have need_le := needCapacity_le list bounded.managed.isolated
  have lower := small.1
  have upper := small.2
  simp only [portCount] at need_le
  exact ⟨by omega, by omega⟩

theorem SmallList.leavesRoom (small : SmallList list) : LeavesRoom list := by
  rcases small with ⟨-, upper⟩
  simp only [LeavesRoom, portCount, needLimit]
  omega

/-- Making room keeps the capacity a doubled 16, of at most 65536 slots. -/
theorem Bounded.startsLoop {ready : State} (bounded : Bounded before) (small : SmallList list)
    (starts : StartsLoop os list before ready) : IsDoubled ready.gDbCapacity := by
  have asked_le := askedCapacity_le bounded small
  have start := bounded.removeObsolete list
  rcases (startsLoop_iff.mp starts).2 with ⟨code, ensured, success⟩
  cases ensureDbCapacity_path ensured with
  | enough present _ => exact start.doubled present
  | refused => exact absurd (by decide) success
  | granted _ doubled _ _ => exact start.isDoubled_startCapacity.growCapacity (by omega) doubled

theorem TestsRoom.keepsRoom {searched : State} (sized : Sized before)
    (tests : TestsRoom call before searched) : HasRoom 1 searched := by
  cases tests with
  | @intro ready start earlier later node _ _ starts nodes_eq ran ports =>
      rcases sized.startsLoop starts with ⟨allocated, room⟩
      rw [nodes_eq, List.length_append] at room
      have start_room := (addNodes_of_room allocated room ran).room
      rw [List.length_cons] at start_room
      exact (start_room.le (by omega)).of_frame ports.frame

theorem HasRoom.not_isFull {count : ℕ} (room : HasRoom (count + 1) state) : ¬IsFull state := by
  rintro ⟨other, other_eq, full⟩
  rcases room with ⟨block, block_eq, inside⟩
  rw [block_eq, Option.some.injEq] at other_eq
  subst other
  omega

theorem Accesses.inBounds {maxSize index : ℕ} (sized : Sized before)
    (accesses : Accesses call before maxSize index) : index < maxSize := by
  cases accesses with
  | @removal block _ _ index_mem =>
      exact Nat.lt_of_lt_of_le (lt_of_mem_removeAccesses index_mem) block.fits
  | @copiedFrom block _ _ index_lt => exact Nat.lt_of_lt_of_le index_lt block.fits
  | copiedTo doubled index_lt =>
      have start_sized := sized.removeObsolete call.list
      have start := start_sized.le_startCapacity
      have length_le := start_sized.length_le
      have grown_le := le_growCapacity (by omega) doubled
      omega
  | appended tests grown _ present =>
      have room := tests.keepsRoom sized
      rw [room.growIfFull call.os, Option.some.injEq, Prod.mk.injEq] at grown
      rcases grown with ⟨-, rfl⟩
      rcases room with ⟨other, other_eq, inside⟩
      rw [present, Option.some.injEq] at other_eq
      subst other
      exact Nat.lt_of_succ_le inside
  | @snapshot _ block _ _ _ index_lt => exact Nat.lt_of_lt_of_le index_lt block.fits

theorem Bounded.step (bounded : Bounded before) (small : SmallList call.list)
    (granted : ∀ allocation, call.os.malloc allocation = true)
    (stepped : manager.step before call = some after) :
    Bounded after ∧ after.gDb.isSome := by
  have sized := bounded.managed.sized
  rcases manager_step_eq_some.mp stepped with ⟨result, ran⟩
  rcases bounded.managed.exists_update call.os small.leavesRoom with
    ⟨result', after', ran', managed⟩
  rw [ran, Option.some.injEq, Prod.mk.injEq] at ran'
  rcases ran' with ⟨rfl, rfl⟩
  cases updateNodeinfoDatabase_path ran with
  | noCapacity ensured refused _ =>
      rcases (ensureDbCapacity_effect ensured).2.2 refused with ⟨allocation, refusal⟩
      simp [granted allocation] at refusal
  | @noSnapshot ready final starts added refused => simp [granted] at refused
  | @snapshot ready final block starts added present =>
      rcases sized.startsLoop starts with ⟨allocated, room⟩
      have keeps := addNodes_of_room allocated (room.le (Nat.le_refl (_ + 0))) added
      refine ⟨⟨managed, fun _ => ?_⟩, keeps.allocated.present⟩
      change IsDoubled final.gDbCapacity
      rw [keeps.capacity_eq]
      exact bounded.startsLoop small starts

theorem Bounded.updateInBounds (bounded : Bounded before) (small : SmallList call.list)
    (granted : ∀ allocation, call.os.malloc allocation = true)
    (stepped : manager.step before call = some after) : UpdateInBounds call before after := by
  rcases bounded.step small granted stepped with ⟨after_bounded, present⟩
  rcases Option.isSome_iff_exists.mp present with ⟨block, block_eq⟩
  have doubled := after_bounded.doubled present
  have asked_le := askedCapacity_le bounded small
  have start := (bounded.managed.sized.removeObsolete call.list).le_startCapacity
  refine
    { block := ⟨block, block_eq, ?_, block.fits⟩
      accesses := fun _ _ accesses => accesses.inBounds bounded.managed.sized
      noGrowth := fun _ tests => (tests.keepsRoom bounded.managed.sized).not_isFull
      capacity := ?_
      need_fits := fitsInt_needCapacity bounded small
      doubling_ends := ?_ }
  · exact (after_bounded.managed.sized.capacity_eq block block_eq).symm
  · have capacity_le := doubled.le
    rcases doubled with ⟨doublings, -, capacity_eq⟩
    exact ⟨doublings, capacity_eq, capacity_le⟩
  · apply exists_growCapacity _ (by omega)
    · omega
    · simp only [needLimit]
      omega

end Update

/--
In every run of updates with lists of -1 to 5460 nodes and successful allocations, each
update stays inside the array and inside `int`.
-/
theorem run_inBounds (calls : List Call)
    (small : ∀ call ∈ calls, -1 ≤ call.list.currentSize.toInt ∧ call.list.currentSize.toInt ≤ 5460)
    (granted : ∀ call ∈ calls, ∀ allocation, call.os.malloc allocation = true) :
    (∃ state, manager.run calls = some state) ∧
      ∀ before call after, manager.Takes calls before call after →
        UpdateInBounds call before after := by
  refine ⟨?_, ?_⟩
  · rcases exists_run fun call call_mem => SmallList.leavesRoom (small call call_mem) with
      ⟨state, ran, -⟩
    exact ⟨state, ran⟩
  · rintro before call after ⟨earlier, later, rfl, ran, stepped⟩
    have bounded : Bounded before := by
      have kept : ∀ {start : State} {other : Call} {next : State},
          manager.step start other = some next →
          (SmallList other.list ∧ ∀ allocation, other.os.malloc allocation = true) →
          Bounded start → Bounded next :=
        fun otherStep conditions holds => (holds.step conditions.1 conditions.2 otherStep).1
      apply manager.runFrom_preserves_of_forall kept ran _ .initial
      · intro other other_mem
        have known : other ∈ earlier ++ call :: later := List.mem_append_left _ other_mem
        exact ⟨small other known, granted other known⟩
    exact bounded.updateInBounds (small call (by simp)) (granted call (by simp)) stepped

theorem run_inBounds_sampleCalls :
    (∃ state, manager.run sampleCalls = some state) ∧
      ∀ before call after, manager.Takes sampleCalls before call after →
        UpdateInBounds call before after :=
  run_inBounds sampleCalls (by decide) (by simp [sampleCalls, grantingOs])

end NodeinfoSystem.Database
