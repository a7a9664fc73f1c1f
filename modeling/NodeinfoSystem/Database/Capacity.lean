import NodeinfoSystem.Database.Ports
import NodeinfoSystem.Wire.Readers
import Mathlib.Data.Int.Interval

/-!
# Room for every entry

An update computes the capacity it needs in `int` and doubles the one it has
until that is enough. Entries have ports of their own, so there are never more of
them than ports; a list whose count leaves room for that many in half the range
of `int` makes no computation overflow, and every write stays inside the block.
So a sequence of updates with such lists has a result, whatever the operating
system answers.
-/

namespace NodeinfoSystem.Database

open Foundation

/-- The number of ports between `PORT_BASE` and 65535. -/
def portCount : ℕ := 55536

/-- The largest capacity that can be asked for before a doubling overflows. -/
def needLimit : ℤ := 2 ^ 30

theorem PortsIsolated.nodup_controlPorts {entries : List NodeinfoDatabaseElement}
    (isolated : PortsIsolated entries) : (entries.map (·.controlPortNum.toInt)).Nodup := by
  rw [List.Nodup, List.pairwise_map]
  apply isolated.disjoint.imp
  intro first second disjoint equal
  have first_mem := mem_ports.mpr (Or.inl (Eq.refl first.controlPortNum.toInt))
  exact Finset.disjoint_left.mp disjoint first_mem (mem_ports.mpr (Or.inl equal))

theorem PortsIsolated.length_le {entries : List NodeinfoDatabaseElement}
    (isolated : PortsIsolated entries) : entries.length ≤ portCount := by
  have subset : (entries.map (·.controlPortNum.toInt)).toFinset ⊆ Finset.Icc portBase portLast := by
    intro port port_mem
    rw [List.mem_toFinset, List.mem_map] at port_mem
    rcases port_mem with ⟨element, element_mem, rfl⟩
    rw [Finset.mem_Icc]
    exact isolated.inRange element element_mem _ (mem_ports.mpr (Or.inl rfl))
  have card_le := Finset.card_le_card subset
  rw [List.toFinset_card_of_nodup isolated.nodup_controlPorts, List.length_map,
    Int.card_Icc] at card_le
  exact card_le

/-- The capacity variable is that of the block, and large enough to be doubled. -/
structure Sized (state : State) : Prop where
  absent : state.gDb = none → state.gDbCapacity = 0
  capacity_eq : ∀ block, state.gDb = some block → state.gDbCapacity = block.maxSize
  capacity_pos : ∀ block, state.gDb = some block → 16 ≤ block.maxSize

namespace Sized

variable {state : State}

theorem initial : Sized State.initial where
  absent _ := rfl
  capacity_eq _ present := by simp [State.initial] at present
  capacity_pos _ present := by simp [State.initial] at present

theorem length_le (sized : Sized state) : (state.entries.length : ℤ) ≤ state.gDbCapacity := by
  cases present : state.gDb with
  | none =>
      rw [sized.absent present]
      simp [State.entries, present]
  | some block =>
      have fits := block.fits
      rw [sized.capacity_eq block present]
      simp only [State.entries, present]
      omega

theorem of_eq {other : State} (sized : Sized state) (gDb_eq : other.gDb = state.gDb)
    (capacity_eq : other.gDbCapacity = state.gDbCapacity) : Sized other where
  absent := by
    rw [gDb_eq, capacity_eq]
    exact sized.absent
  capacity_eq := by
    rw [gDb_eq, capacity_eq]
    exact sized.capacity_eq
  capacity_pos := by
    rw [gDb_eq]
    exact sized.capacity_pos

end Sized

/-! ## Growth -/

theorem le_growCapacity {need capacity newCap : ℤ} {rounds : ℕ} (positive : 0 < capacity)
    (grown : growCapacity need rounds capacity = some newCap) :
    need ≤ newCap ∧ capacity ≤ newCap := by
  induction rounds generalizing capacity with
  | zero => simp [growCapacity] at grown
  | succ rounds ih =>
      rw [growCapacity] at grown
      split at grown
      · split at grown
        · contradiction
        · next doubled computed =>
            have doubled_eq := eq_of_checkedInt computed
            have rest := ih (by omega) grown
            omega
      · simp only [Option.some.injEq] at grown
        omega

/-- Each round doubles the capacity, and none of the doublings overflows. -/
theorem exists_growCapacity {need capacity : ℤ} {rounds : ℕ} (small : need ≤ needLimit)
    (positive : 0 < capacity) (enough : need ≤ capacity * 2 ^ rounds) :
    ∃ newCap, growCapacity need (rounds + 1) capacity = some newCap := by
  induction rounds generalizing capacity with
  | zero =>
      have reached : need ≤ capacity := by simpa using enough
      exact ⟨capacity, by rw [growCapacity, if_neg (by omega)]⟩
  | succ rounds ih =>
      rw [growCapacity]
      split
      · next short =>
          have fits : FitsInt (capacity * 2) := by
            unfold needLimit at small
            refine ⟨?_, ?_⟩ <;> omega
          have enough_after : need ≤ capacity * 2 * 2 ^ rounds := by
            rwa [Int.mul_assoc, Int.mul_comm 2, ← Int.pow_succ]
          simp only [checkedInt_of_fitsInt fits]
          exact ih (by omega) enough_after
      · exact ⟨capacity, rfl⟩

variable {os : Os} {before after state : State}

theorem Sized.le_startCapacity (sized : Sized state) :
    16 ≤ startCapacity state ∧ state.gDbCapacity ≤ startCapacity state := by
  unfold startCapacity
  cases present : state.gDb with
  | none => simp [sized.absent present]
  | some block =>
      have capacity_pos := sized.capacity_pos block present
      rw [sized.capacity_eq block present, if_pos (by omega)]
      omega

/-- What a call that makes room maintains, and what its success means. -/
structure MakesRoom (need : ℤ) (code : ℤ) (before after : State) : Prop where
  sized : Sized after
  present : before.gDb.isSome → after.gDb.isSome
  enough : ¬code < 0 → after.gDb.isSome ∧ need ≤ after.gDbCapacity

theorem Sized.ensureDbCapacity {need code : ℤ} (sized : Sized before)
    (ensured : Database.ensureDbCapacity os need before = some (code, after)) :
    MakesRoom need code before after := by
  cases ensureDbCapacity_path ensured with
  | enough present need_le => exact ⟨sized, id, fun _ => ⟨present, need_le⟩⟩
  | refused =>
      exact ⟨sized.of_eq rfl rfl, id, fun success => absurd (by decide) success⟩
  | @granted newCap _ doubled _ fits =>
      have start := sized.le_startCapacity
      have grown_le := le_growCapacity (by omega) doubled
      have capacity_le : 16 ≤ newCap := Int.le_trans start.1 grown_le.2
      refine ⟨⟨?_, ?_, ?_⟩, fun _ => rfl, fun _ => ⟨rfl, grown_le.1⟩⟩
      · intro absent
        contradiction
      · rintro block ⟨⟩
        change newCap = (newCap.toNat : ℤ)
        omega
      · rintro block ⟨⟩
        change 16 ≤ newCap.toNat
        omega

theorem exists_ensureDbCapacity (os : Os) {need : ℤ} (sized : Sized state)
    (small : need ≤ needLimit) :
    ∃ code after, ensureDbCapacity os need state = some (code, after) := by
  unfold ensureDbCapacity
  split
  · exact ⟨0, state, rfl⟩
  · have start := sized.le_startCapacity
    have enough : need ≤ startCapacity state * 2 ^ 31 := by
      unfold needLimit at small
      omega
    rcases exists_growCapacity small (by omega) enough with ⟨newCap, grown⟩
    have capacity_le : state.gDbCapacity ≤ newCap :=
      Int.le_trans start.2 (le_growCapacity (by omega) grown).2
    unfold startCapacity at grown
    rw [grown]
    simp only [allocate]
    cases os.malloc state.allocations with
    | false => exact ⟨_, _, rfl⟩
    | true =>
        let counted : State := { state with allocations := state.allocations + 1 }
        have length_le : (counted.entries.length : ℤ) ≤ state.gDbCapacity := sized.length_le
        have fits : counted.entries.length ≤ newCap.toNat := by omega
        simp only [counted] at fits
        simp only [dif_pos fits]
        exact ⟨0, _, rfl⟩

/-- A database that exists, with the capacity the program remembers for it. -/
structure Allocated (state : State) : Prop where
  sized : Sized state
  present : state.gDb.isSome

theorem Allocated.of_frame (allocated : Allocated before) (frame : SearchFrame before after) :
    Allocated after where
  sized := allocated.sized.of_eq frame.gDb_eq frame.capacity_eq
  present := by
    rw [frame.gDb_eq]
    exact allocated.present

/-- A block with room for `count` more elements. -/
def HasRoom (count : ℕ) (state : State) : Prop :=
  ∃ block, state.gDb = some block ∧ block.elements.length + count ≤ block.maxSize

theorem HasRoom.of_frame {count : ℕ} (room : HasRoom count before)
    (frame : SearchFrame before after) : HasRoom count after := by
  rcases room with ⟨block, block_eq, inside⟩
  exact ⟨block, frame.gDb_eq.trans block_eq, inside⟩

theorem HasRoom.le {count fewer : ℕ} (room : HasRoom count state) (fewer_le : fewer ≤ count) :
    HasRoom fewer state := by
  rcases room with ⟨block, block_eq, inside⟩
  exact ⟨block, block_eq, by omega⟩

theorem Allocated.hasRoom {count : ℕ} (allocated : Allocated state)
    (enough : (state.entries.length : ℤ) + count ≤ state.gDbCapacity) : HasRoom count state := by
  rcases Option.isSome_iff_exists.mp allocated.present with ⟨block, block_eq⟩
  refine ⟨block, block_eq, ?_⟩
  rw [allocated.sized.capacity_eq block block_eq] at enough
  simp only [State.entries, block_eq] at enough
  omega

theorem Allocated.growIfFull {code : ℤ} (allocated : Allocated before)
    (grown : Database.growIfFull os before = some (code, after)) :
    Allocated after ∧ (¬code < 0 → HasRoom 1 after) := by
  have effect := growIfFull_effect grown
  unfold Database.growIfFull at grown
  split at grown
  · contradiction
  · next block block_eq =>
      have entries_eq : before.entries = block.elements := by
        simp only [State.entries, block_eq]
      split at grown
      · cases computed : checkedInt (block.elements.length + 1) with
        | none => simp [computed] at grown
        | some need =>
            simp only [computed] at grown
            have need_eq := eq_of_checkedInt computed
            have makesRoom := allocated.sized.ensureDbCapacity grown
            have grown_allocated : Allocated after :=
              ⟨makesRoom.sized, makesRoom.present allocated.present⟩
            refine ⟨grown_allocated, ?_⟩
            intro success
            have enough := (makesRoom.enough success).2
            apply grown_allocated.hasRoom
            rw [effect.1, entries_eq]
            omega
      · next room =>
          simp only [Option.some.injEq, Prod.mk.injEq] at grown
          rcases grown with ⟨-, rfl⟩
          exact ⟨allocated, fun _ => ⟨block, block_eq, Nat.lt_of_not_le room⟩⟩

theorem HasRoom.growIfFull {count : ℕ} (room : HasRoom (count + 1) state) (os : Os) :
    Database.growIfFull os state = some (0, state) := by
  rcases room with ⟨block, block_eq, inside⟩
  simp only [Database.growIfFull, block_eq]
  rw [if_neg (by omega)]

theorem exists_growIfFull (os : Os) (allocated : Allocated state)
    (small : (state.entries.length : ℤ) < needLimit) :
    ∃ code after, growIfFull os state = some (code, after) := by
  rcases Option.isSome_iff_exists.mp allocated.present with ⟨block, block_eq⟩
  have entries_eq : state.entries = block.elements := by
    simp only [State.entries, block_eq]
  simp only [growIfFull, block_eq]
  split
  · have need_le : (block.elements.length : ℤ) + 1 ≤ needLimit := by
      rw [entries_eq] at small
      omega
    have fits : FitsInt (block.elements.length + 1) := by
      unfold needLimit at need_le
      refine ⟨?_, ?_⟩ <;> omega
    simp only [checkedInt_of_fitsInt fits]
    exact exists_ensureDbCapacity os allocated.sized need_le
  · exact ⟨0, state, rfl⟩

theorem Allocated.appendElement {element : NodeinfoDatabaseElement}
    (allocated : Allocated before)
    (appended : Database.appendElement element before = some after) :
    Allocated after ∧ ∀ count, HasRoom (count + 1) before → HasRoom count after := by
  unfold Database.appendElement at appended
  split at appended
  · contradiction
  · next block block_eq =>
      split at appended
      · simp only [Option.some.injEq] at appended
        subst appended
        refine ⟨⟨⟨?_, ?_, ?_⟩, rfl⟩, ?_⟩
        · intro absent
          contradiction
        · rintro grown ⟨⟩
          exact allocated.sized.capacity_eq block block_eq
        · rintro grown ⟨⟩
          exact allocated.sized.capacity_pos block block_eq
        · rintro count ⟨other, other_eq, room⟩
          rw [block_eq, Option.some.injEq] at other_eq
          subst other
          refine ⟨_, rfl, ?_⟩
          simp only [List.length_append, List.length_singleton]
          omega
      · contradiction

theorem exists_appendElement (element : NodeinfoDatabaseElement) (room : HasRoom 1 state) :
    ∃ after, appendElement element state = some after := by
  rcases room with ⟨block, block_eq, inside⟩
  simp only [appendElement, block_eq, dif_pos (Nat.lt_of_succ_le inside)]
  exact ⟨_, rfl⟩

theorem Sized.removeObsolete (sized : Sized state) (list : NodedataList Int32) :
    Sized (removeObsolete list state) := by
  cases present : state.gDb with
  | none =>
      simp only [Database.removeObsolete, present]
      exact sized
  | some block =>
      simp only [Database.removeObsolete, present]
      refine ⟨?_, ?_, ?_⟩
      · intro absent
        contradiction
      · rintro shrunk ⟨⟩
        exact sized.capacity_eq block present
      · rintro shrunk ⟨⟩
        exact sized.capacity_pos block present

/-! ## The add loop -/

theorem Allocated.addNode {networkId : Int32} {node : Nodedata Int32} {iteration : Iteration}
    (allocated : Allocated before)
    (ran : Database.addNode os networkId node before = some iteration) :
    Allocated iteration.final := by
  cases addNode_path ran with
  | present => exact allocated
  | noControlPort _ search _ => exact allocated.of_frame (findNextFreePort_frame search)
  | noMessagePort _ ctrlSearch _ msgSearch _ =>
      exact (allocated.of_frame (findNextFreePort_frame ctrlSearch)).of_frame
        (findNextFreePort_frame msgSearch)
  | noMemory _ ports grown _ => exact ((allocated.of_frame ports.frame).growIfFull grown).1
  | added _ ports grown _ appended =>
      have grown_allocated := ((allocated.of_frame ports.frame).growIfFull grown).1
      exact (grown_allocated.appendElement appended).1

theorem Allocated.addNodes {networkId : Int32} {nodes : List (Nodedata Int32)}
    (allocated : Allocated before)
    (ran : Database.addNodes os networkId nodes before = some after) : Allocated after :=
  addNodes_invariant (fun _ _ _ _ iterated start => start.addNode iterated) ran allocated

/-- What the loop keeps while there is room for `count` more elements. -/
structure KeepsRoom (count : ℕ) (before after : State) : Prop where
  allocated : Allocated after
  room : HasRoom count after
  capacity_eq : after.gDbCapacity = before.gDbCapacity
  allocations_eq : after.allocations = before.allocations

/-- With room for its node, an iteration goes on to the next one and allocates nothing. -/
theorem addNode_of_room {networkId : Int32} {node : Nodedata Int32} {iteration : Iteration}
    {count : ℕ} (allocated : Allocated before) (room : HasRoom (count + 1) before)
    (ran : Database.addNode os networkId node before = some iteration) :
    ∃ after, iteration = .next after ∧ KeepsRoom count before after := by
  have kept := allocated.addNode ran
  have shrunk := room.le (Nat.le_succ count)
  cases addNode_path ran with
  | present => exact ⟨before, rfl, kept, shrunk, rfl, rfl⟩
  | @noControlPort port searched absent search failed =>
      have frame := findNextFreePort_frame search
      exact ⟨searched, rfl, kept, shrunk.of_frame frame, frame.capacity_eq,
        allocations_of_findNextFreePort search⟩
  | @noMessagePort ctrlPort msgPort middle searched absent ctrlSearch _ msgSearch failed =>
      have frame := (findNextFreePort_frame ctrlSearch).trans (findNextFreePort_frame msgSearch)
      exact ⟨searched, rfl, kept, shrunk.of_frame frame, frame.capacity_eq,
        (allocations_of_findNextFreePort msgSearch).trans
          (allocations_of_findNextFreePort ctrlSearch)⟩
  | noMemory _ ports grown refused =>
      rw [(room.of_frame ports.frame).growIfFull os, Option.some.injEq, Prod.mk.injEq] at grown
      omega
  | @added ctrlPort msgPort code searched grownState after absent ports grown _ appended =>
      have searched_room := room.of_frame ports.frame
      rw [searched_room.growIfFull os, Option.some.injEq, Prod.mk.injEq] at grown
      rcases grown with ⟨rfl, rfl⟩
      have after_room := ((allocated.of_frame ports.frame).appendElement appended).2 count
      rcases appendElement_frame appended with ⟨-, capacity_eq, allocations_eq⟩
      exact ⟨after, rfl, kept, after_room searched_room,
        capacity_eq.trans ports.frame.capacity_eq, allocations_eq.trans ports.allocations_eq⟩

/-- By induction on the nodes: each of them takes at most one slot. -/
theorem addNodes_of_room {networkId : Int32} {nodes : List (Nodedata Int32)} {count : ℕ}
    (allocated : Allocated before) (room : HasRoom (nodes.length + count) before)
    (ran : Database.addNodes os networkId nodes before = some after) :
    KeepsRoom count before after := by
  induction nodes generalizing before with
  | nil =>
      rw [Database.addNodes, Option.some.injEq] at ran
      subst ran
      exact ⟨allocated, by simpa using room, rfl, rfl⟩
  | cons node nodes ih =>
      rw [List.length_cons, Nat.add_right_comm] at room
      rw [Database.addNodes] at ran
      split at ran
      · contradiction
      · next middle iterated =>
          rcases addNode_of_room allocated room iterated with ⟨_, ⟨⟩, keeps⟩
          have rest := ih keeps.allocated keeps.room ran
          exact ⟨rest.allocated, rest.room, rest.capacity_eq.trans keeps.capacity_eq,
            rest.allocations_eq.trans keeps.allocations_eq⟩
      · next final iterated =>
          rcases addNode_of_room allocated room iterated with ⟨_, left_eq, -⟩
          contradiction

theorem exists_addNode (os : Os) (networkId : Int32) (node : Nodedata Int32)
    (allocated : Allocated state) (small : (state.entries.length : ℤ) < needLimit) :
    ∃ iteration, addNode os networkId node state = some iteration := by
  unfold addNode
  split
  · exact ⟨.next state, rfl⟩
  · split
    next ctrlPort middle ctrlSearch =>
      split
      · exact ⟨_, rfl⟩
      · split
        next msgPort searched msgSearch =>
          split
          · exact ⟨_, rfl⟩
          · have frame := (findNextFreePort_frame ctrlSearch).trans
              (findNextFreePort_frame msgSearch)
            have searched_allocated := allocated.of_frame frame
            rw [← frame.entries_eq] at small
            rcases exists_growIfFull os searched_allocated small with ⟨code, grownState, grown⟩
            simp only [grown]
            split
            · exact ⟨_, rfl⟩
            · next success =>
                have room := (searched_allocated.growIfFull grown).2 success
                rcases exists_appendElement (newElement networkId node ctrlPort msgPort) room with
                  ⟨after, appended⟩
                rw [appended]
                exact ⟨_, rfl⟩

theorem PortsIsolated.of_nodeEffect {networkId : Int32} {node : Nodedata Int32}
    {iteration : Iteration} (isolated : PortsIsolated state.entries)
    (effect : NodeEffect os networkId node state iteration) :
    PortsIsolated iteration.final.entries := by
  cases effect with
  | present => exact isolated
  | noPort entries_eq _ => exact entries_eq ▸ isolated
  | noMemory entries_eq _ _ => exact entries_eq ▸ isolated
  | added insertable entries_eq _ => exact entries_eq ▸ isolated.append insertable

theorem PortsIsolated.length_lt_needLimit {entries : List NodeinfoDatabaseElement}
    (isolated : PortsIsolated entries) : (entries.length : ℤ) < needLimit := by
  have length_le := isolated.length_le
  simp only [portCount] at length_le
  unfold needLimit
  omega

theorem exists_addNodes (os : Os) (networkId : Int32) (nodes : List (Nodedata Int32))
    (allocated : Allocated state) (isolated : PortsIsolated state.entries) :
    ∃ after, addNodes os networkId nodes state = some after := by
  induction nodes generalizing state with
  | nil => exact ⟨state, rfl⟩
  | cons node nodes ih =>
      rcases exists_addNode os networkId node allocated isolated.length_lt_needLimit with
        ⟨iteration, iterated⟩
      have next_allocated := allocated.addNode iterated
      have next_isolated := isolated.of_nodeEffect (addNode_effect iterated)
      rw [addNodes, iterated]
      cases iteration with
      | next middle => exact ih next_allocated next_isolated
      | leave final => exact ⟨final, rfl⟩

/-! ## Whole updates -/

/-- A list that leaves room for as many entries as there are ports. -/
def LeavesRoom (list : NodedataList Int32) : Prop :=
  list.currentSize.toInt + portCount ≤ needLimit

theorem Sized.startsLoop {list : NodedataList Int32} {ready : State} (sized : Sized before)
    (starts : StartsLoop os list before ready) :
    Allocated ready ∧ HasRoom list.entries.length ready := by
  rcases starts with ⟨needCapacity, code, needed, ensured, success⟩
  have makesRoom := (sized.removeObsolete list).ensureDbCapacity ensured
  have enough := makesRoom.enough success
  have allocated : Allocated ready := ⟨makesRoom.sized, enough.1⟩
  refine ⟨allocated, ?_⟩
  have needed_eq := eq_of_checkedInt needed
  have length_le := allocated.sized.length_le
  have capacity_le := enough.2
  apply allocated.hasRoom
  rw [list.length_entries]
  rw [(ensureDbCapacity_effect ensured).1] at length_le ⊢
  split at capacity_le <;> omega

theorem Sized.update {list : NodedataList Int32} {result : Option NodeinfoDatabase}
    (sized : Sized before)
    (ran : updateNodeinfoDatabase os list before = some (result, after)) : Sized after := by
  cases updateNodeinfoDatabase_path ran with
  | noCapacity ensured _ _ => exact ((sized.removeObsolete list).ensureDbCapacity ensured).sized
  | noSnapshot starts added _ =>
      exact ((sized.startsLoop starts).1.addNodes added).sized.of_eq rfl rfl
  | snapshot starts added _ =>
      exact ((sized.startsLoop starts).1.addNodes added).sized.of_eq rfl rfl

theorem Sized.of_run {calls : List Call} (ran : manager.run calls = some state) : Sized state := by
  have kept : ∀ {before : State} {call : Call} {after : State},
      manager.step before call = some after → Sized before → Sized after := by
    intro before call after stepped sized
    rcases manager_step_eq_some.mp stepped with ⟨result, updated⟩
    exact sized.update updated
  exact manager.runFrom_preserves kept ran Sized.initial

theorem StartsLoop.exists_final {list : NodedataList Int32} {ready : State}
    (starts : StartsLoop os list before ready) (sized : Sized before)
    (isolated : PortsIsolated before.entries) :
    ∃ final block, addNodes os list.networkId list.entries ready = some final ∧
      final.gDb = some block := by
  have allocated := (sized.startsLoop starts).1
  have ready_isolated : PortsIsolated ready.entries := by
    rw [starts.entries_eq]
    exact isolated.subperm (removeWhere_subperm _ _)
  rcases exists_addNodes os list.networkId list.entries allocated ready_isolated with
    ⟨final, added⟩
  rcases Option.isSome_iff_exists.mp (allocated.addNodes added).present with ⟨block, block_eq⟩
  exact ⟨final, block, added, block_eq⟩

theorem exists_update_of_ensured {list : NodedataList Int32} {code : ℤ} {ready : State}
    (sized : Sized state) (isolated : PortsIsolated state.entries)
    (fits : FitsInt (needCapacity list state))
    (ensured : ensureDbCapacity os (askedCapacity list state) (removeObsolete list state) =
      some (code, ready)) :
    ∃ result after, updateNodeinfoDatabase os list state = some (result, after) := by
  rcases lt_or_ge code 0 with refused | success
  · exact ⟨none, ready, update_of_refused fits ensured refused⟩
  · have starts := startsLoop_iff.mpr ⟨fits, code, ensured, Int.not_lt.mpr success⟩
    rcases starts.exists_final sized isolated with ⟨final, block, added, present⟩
    exact ⟨_, _, starts.update_eq added present⟩

theorem needCapacity_le (list : NodedataList Int32) (isolated : PortsIsolated state.entries) :
    list.currentSize.toInt ≤ needCapacity list state ∧
      needCapacity list state ≤ list.currentSize.toInt + portCount := by
  have start_isolated : PortsIsolated (removeObsolete list state).entries := by
    rw [entries_removeObsolete]
    exact isolated.subperm (removeWhere_subperm _ _)
  have length_le := start_isolated.length_le
  unfold needCapacity
  omega

theorem exists_updateNodeinfoDatabase (os : Os) {list : NodedataList Int32}
    (room : LeavesRoom list) (sized : Sized state) (isolated : PortsIsolated state.entries) :
    ∃ result after, updateNodeinfoDatabase os list state = some (result, after) := by
  have need_le := needCapacity_le list isolated
  have count_ge := Int32.le_toInt list.currentSize
  unfold LeavesRoom needLimit at room
  have fits : FitsInt (needCapacity list state) := by
    refine ⟨?_, ?_⟩ <;> omega
  have asked_le : askedCapacity list state ≤ needLimit := by
    unfold askedCapacity needLimit
    split <;> omega
  rcases exists_ensureDbCapacity os (sized.removeObsolete list) asked_le with
    ⟨code, ready, ensured⟩
  exact exists_update_of_ensured sized isolated fits ensured

/-- What the database manager maintains. -/
structure Managed (state : State) : Prop where
  sized : Sized state
  isolated : PortsIsolated state.entries

theorem Managed.initial : Managed State.initial where
  sized := Sized.initial
  isolated := PortsIsolated.nil

theorem Managed.exists_update (managed : Managed state) (os : Os) {list : NodedataList Int32}
    (room : LeavesRoom list) :
    ∃ result after, updateNodeinfoDatabase os list state = some (result, after) ∧
      Managed after := by
  rcases exists_updateNodeinfoDatabase os room managed.sized managed.isolated with
    ⟨result, after, updated⟩
  have stepped : manager.step state ⟨os, list⟩ = some after :=
    manager_step_eq_some.mpr ⟨result, updated⟩
  refine ⟨result, after, updated, managed.sized.update updated, ?_⟩
  apply step_preserves PortsIsolated (fun _ _ _ _ insertable => .append insertable) stepped
  exact managed.isolated.subperm (removeWhere_subperm _ _)

/--
A sequence of updates with lists that leave room has a result, whatever the
probes and the allocations answer.
-/
theorem exists_run {calls : List Call} (room : ∀ call ∈ calls, LeavesRoom call.list) :
    ∃ state, manager.run calls = some state ∧ Managed state := by
  have progress {before : State} {call : Call} (leaves : LeavesRoom call.list)
      (managed : Managed before) :
      ∃ after, manager.step before call = some after ∧ Managed after := by
    rcases managed.exists_update call.os leaves with ⟨result, after, updated, after_managed⟩
    exact ⟨after, manager_step_eq_some.mpr ⟨result, updated⟩, after_managed⟩
  exact manager.exists_runFrom progress room Managed.initial

/-- The relay's reader returns lists of at most 5460 nodes, so all that it returns leave room. -/
theorem leavesRoom_of_received {granted : Bool} {received : Option Wire.Datagram}
    {list : NodedataList Int32}
    (returned : Wire.Relay.receiveNodedataList granted received = some list) : LeavesRoom list := by
  cases received with
  | none => cases granted <;> contradiction
  | some datagram =>
      rcases Wire.Relay.receiveNodedataList_eq_some returned with ⟨-, accepted, rfl⟩
      have inside := (Wire.expectedListSize_le_iff datagram.fits).mp (Nat.le_of_not_lt accepted)
      have fits := datagram.fits
      simp only [Wire.maxUdpPayload] at fits
      simp only [LeavesRoom, Wire.overlayNodedataList, portCount, needLimit]
      omega

end NodeinfoSystem.Database
