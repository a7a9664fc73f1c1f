import NodeinfoSystem.Database.FirstFit
import NodeinfoSystem.Database.Resend

/-!
# What an update that returns `NULL` leaves behind

An update works on the database in place. It removes the obsolete entries first, then
reserves the capacity for the whole list, adds the nodes, and allocates the copy for
the caller last. Nothing is rolled back: when the capacity is refused the obsolete
entries are gone, and when the copy is refused the database is the one that a successful
update would have left. The entries and the cursor are as before exactly when there
was nothing to do.
-/

namespace NodeinfoSystem.Database

open Foundation

/-! ## Which allocation is refused -/

/-- The update asks for a larger block. -/
def Grows (list : NodedataList Int32) (state : State) : Prop :=
  ¬(state.gDb.isSome ∧ askedCapacity list state ≤ state.gDbCapacity)

/-- The computations before the add loop stay in the range of `int`. -/
def Computes (list : NodedataList Int32) (state : State) : Prop :=
  FitsInt (needCapacity list state) ∧
    (Grows list state → ∃ newCap,
      growCapacity (askedCapacity list state) 32 (startCapacity state) = some newCap)

/-- The allocation in `ensure_db_capacity` is made and fails. -/
def CapacityRefused (malloc : ℕ → Bool) (list : NodedataList Int32) (state : State) : Prop :=
  Grows list state ∧ malloc state.allocations = false

/-- The allocation of the copy for the caller is reached and fails. -/
def SnapshotRefused (malloc : ℕ → Bool) (list : NodedataList Int32) (state : State) : Prop :=
  ¬Grows list state ∧ malloc state.allocations = false ∨
    Grows list state ∧ malloc state.allocations = true ∧ malloc (state.allocations + 1) = false

/-- The removal loop has nothing to remove. -/
def NoneObsolete (list : NodedataList Int32) (state : State) : Prop :=
  ∀ element ∈ state.entries, isObsolete list element = false

/-- Every port of the range is in an entry. -/
def PortsExhausted (state : State) : Prop :=
  ∀ port, portBase ≤ port → port ≤ portLast → isPortInDb state port = true

section Removal

variable {list : NodedataList Int32} {state : State}

theorem removeObsolete_frame (list : NodedataList Int32) (state : State) :
    (removeObsolete list state).gDb.isSome = state.gDb.isSome ∧
      (removeObsolete list state).gDbCapacity = state.gDbCapacity ∧
      (removeObsolete list state).allocations = state.allocations := by
  unfold removeObsolete
  cases present : state.gDb with
  | none => simp [present]
  | some block => exact ⟨rfl, rfl, rfl⟩

theorem startCapacity_removeObsolete (list : NodedataList Int32) (state : State) :
    startCapacity (removeObsolete list state) = startCapacity state := by
  rw [startCapacity, startCapacity, (removeObsolete_frame list state).2.1]

theorem grows_iff :
    Grows list state ↔ ¬((removeObsolete list state).gDb.isSome ∧
      askedCapacity list state ≤ (removeObsolete list state).gDbCapacity) := by
  rcases removeObsolete_frame list state with ⟨present_eq, capacity_eq, -⟩
  rw [present_eq, capacity_eq, Grows]

end Removal

/-! ## Which of them an update meets -/

section Paths

variable {os : Os} {list : NodedataList Int32} {state ready after : State} {code : ℤ}

theorem computes_of_ensured (fits : FitsInt (needCapacity list state))
    (ensured : ensureDbCapacity os (askedCapacity list state) (removeObsolete list state) =
      some (code, ready)) : Computes list state := by
  refine ⟨fits, fun grows => ?_⟩
  rw [← startCapacity_removeObsolete list state]
  cases ensureDbCapacity_path ensured with
  | enough present need_le => exact absurd ⟨present, need_le⟩ (grows_iff.mp grows)
  | refused _ doubled _ => exact ⟨_, doubled⟩
  | granted _ doubled _ _ => exact ⟨_, doubled⟩

theorem capacityRefused_of_ensured
    (ensured : ensureDbCapacity os (askedCapacity list state) (removeObsolete list state) =
      some (code, ready)) (refused : code < 0) : CapacityRefused os.malloc list state := by
  cases ensureDbCapacity_path ensured with
  | enough => exact absurd refused (by decide)
  | refused short _ refusal =>
      rw [(removeObsolete_frame list state).2.2] at refusal
      exact ⟨grows_iff.mpr short, refusal⟩
  | granted => exact absurd refused (by decide)

theorem exists_ensured_of_capacityRefused (computes : Computes list state)
    (refused : CapacityRefused os.malloc list state) :
    ∃ ready, ensureDbCapacity os (askedCapacity list state) (removeObsolete list state) =
      some (-1, ready) := by
  rcases refused with ⟨grows, refusal⟩
  rcases computes.2 grows with ⟨newCap, doubled⟩
  rw [← startCapacity_removeObsolete list state] at doubled
  rw [← (removeObsolete_frame list state).2.2] at refusal
  exact ⟨_, (CapacityPath.refused (grows_iff.mp grows) doubled refusal).ensureDbCapacity_eq⟩

theorem StartsLoop.snapshotRefused_iff (starts : StartsLoop os list state ready) :
    SnapshotRefused os.malloc list state ↔ os.malloc ready.allocations = false := by
  rcases (startsLoop_iff.mp starts).2 with ⟨code, ensured, success⟩
  have allocations_eq := (removeObsolete_frame list state).2.2
  cases ensureDbCapacity_path ensured with
  | enough present need_le =>
      have enough : ¬Grows list state := fun grows => grows_iff.mp grows ⟨present, need_le⟩
      rw [allocations_eq, SnapshotRefused]
      simp [enough]
  | refused => exact absurd (by decide) success
  | granted short _ grant _ =>
      have grows : Grows list state := grows_iff.mpr short
      rw [allocations_eq] at grant
      simp only [allocations_eq, SnapshotRefused, grows, grant, not_true, false_and, true_and,
        false_or]

theorem exists_startsLoop_of_snapshotRefused (sized : Sized state) (computes : Computes list state)
    (refused : SnapshotRefused os.malloc list state) : ∃ ready, StartsLoop os list state ready := by
  rcases removeObsolete_frame list state with ⟨present_eq, capacity_eq, allocations_eq⟩
  rcases refused with ⟨enough, -⟩ | ⟨grows, grant, -⟩
  · rw [Grows, not_not, ← present_eq, ← capacity_eq] at enough
    have path : CapacityPath os (askedCapacity list state) (removeObsolete list state) 0 _ :=
      .enough enough.1 enough.2
    exact ⟨_, startsLoop_iff.mpr ⟨computes.1, 0, path.ensureDbCapacity_eq, by decide⟩⟩
  · rcases computes.2 grows with ⟨newCap, doubled⟩
    rw [← startCapacity_removeObsolete list state] at doubled
    rw [← allocations_eq] at grant
    have start_sized := sized.removeObsolete list
    have start := start_sized.le_startCapacity
    have length_le := start_sized.length_le
    have grown_le := le_growCapacity (by omega) doubled
    have fits : (removeObsolete list state).entries.length ≤ newCap.toNat := by omega
    have path : CapacityPath os (askedCapacity list state) (removeObsolete list state) 0 _ :=
      .granted (grows_iff.mp grows) doubled grant fits
    exact ⟨_, startsLoop_iff.mpr ⟨computes.1, 0, path.ensureDbCapacity_eq, by decide⟩⟩

/-- An update that returns `NULL` either was refused its capacity or its copy. -/
theorem null_cases (ran : updateNodeinfoDatabase os list state = some (none, after)) :
    (Computes list state ∧ CapacityRefused os.malloc list state ∧
        after.entries = (removeObsolete list state).entries ∧ after.nextPort = state.nextPort) ∨
      ∃ ready final, StartsLoop os list state ready ∧
        addNodes os list.networkId list.entries ready = some final ∧
        os.malloc final.allocations = false ∧
        after = { final with allocations := final.allocations + 1 } := by
  rcases exists_ensured_of_update ran with ⟨fits, code, ready, ensured⟩
  rcases lt_or_ge code 0 with refused | success
  · rw [update_of_refused fits ensured refused, Option.some.injEq, Prod.mk.injEq] at ran
    rcases ran with ⟨-, rfl⟩
    refine Or.inl ⟨computes_of_ensured fits ensured, capacityRefused_of_ensured ensured refused,
      (ensureDbCapacity_effect ensured).1, ?_⟩
    rw [nextPort_of_ensureDbCapacity ensured, nextPort_removeObsolete]
  · have starts := startsLoop_iff.mpr ⟨fits, code, ensured, Int.not_lt.mpr success⟩
    cases updateNodeinfoDatabase_path ran with
    | noCapacity _ _ noLoop => exact absurd starts (noLoop ready)
    | @noSnapshot loopStart final loopStarts added refused =>
        exact Or.inr ⟨loopStart, final, loopStarts, added, refused, rfl⟩

/-- With room for the list the loop makes no allocation before that of the copy. -/
theorem StartsLoop.keepsRoom {final : State} (starts : StartsLoop os list state ready)
    (sized : Sized state) (added : addNodes os list.networkId list.entries ready = some final) :
    KeepsRoom 0 ready final := by
  rcases sized.startsLoop starts with ⟨allocated, room⟩
  exact addNodes_of_room allocated room added

end Paths

/-! ## What the loop changes -/

section Loop

variable {os : Os} {networkId : Int32} {before after : State}

theorem addNodes_length_le {nodes : List (Nodedata Int32)}
    (ran : addNodes os networkId nodes before = some after) :
    before.entries.length ≤ after.entries.length := by
  have grows : ∀ node ∈ nodes, ∀ entries element, Insertable networkId node entries element →
      before.entries.length ≤ entries.length →
      before.entries.length ≤ (entries ++ [element]).length := by
    intro _ _ entries element _ length_le
    rw [List.length_append]
    omega
  exact addNodes_preserves grows ran (Nat.le_refl _)

theorem freePorts_eq_nil_iff {state : State} : freePorts state = [] ↔ PortsExhausted state := by
  rw [List.eq_nil_iff_forall_not_mem]
  apply forall_congr'
  intro port
  rw [mem_freePorts, not_and, Bool.not_eq_false]
  exact ⟨fun used lower upper => used ⟨lower, upper⟩, fun used range => used range.1 range.2⟩

theorem PortsExhausted.of_entries_eq {state other : State} (exhausted : PortsExhausted state)
    (entries_eq : other.entries = state.entries) : PortsExhausted other := by
  simp only [PortsExhausted, isPortInDb]
  rw [entries_eq]
  exact exhausted

/-- Where every search succeeds, a loop that adds nothing found every node in the database. -/
theorem present_of_unchanged {nodes : List (Nodedata Int32)} (granted : PortsGranted os)
    (unused : ¬PortsExhausted before) (allocated : Allocated before)
    (room : HasRoom nodes.length before) (ran : addNodes os networkId nodes before = some after)
    (unchanged : after.entries.length = before.entries.length) :
    ∀ node ∈ nodes, existsInDb before networkId (storedAddress node) = true := by
  induction nodes generalizing before with
  | nil => simp
  | cons node nodes ih =>
      have some_free : freePorts before ≠ [] := fun none => unused (freePorts_eq_nil_iff.mp none)
      rcases addNodes_cons_cases ran with ⟨middle, iterated, rest⟩ | iterated
      · have kept := (addNode_of_room allocated room iterated)
        rcases kept with ⟨_, ⟨⟩, keeps⟩
        cases addNode_path iterated with
        | present found =>
            rw [List.forall_mem_cons]
            exact ⟨found, ih unused allocated keeps.room rest unchanged⟩
        | noControlPort _ search failed =>
            exact absurd failed (nonneg_of_unused granted some_free search)
        | noMessagePort _ ctrlSearch _ msgSearch failed =>
            have entries_eq := (findNextFreePort_frame ctrlSearch).entries_eq
            have still_free : freePorts _ ≠ [] := fun none =>
              unused ((freePorts_eq_nil_iff.mp none).of_entries_eq entries_eq.symm)
            exact absurd failed (nonneg_of_unused granted still_free msgSearch)
        | added _ ports grown _ appended =>
            have length_le := addNodes_length_le rest
            rw [(appendElement_effect appended).1, (growIfFull_effect grown).1,
              ports.frame.entries_eq, List.length_append, List.length_singleton] at length_le
            omega
      · rcases addNode_of_room allocated room iterated with ⟨_, left_eq, -⟩
        contradiction

theorem search_of_exhausted {port : ℤ} (exhausted : PortsExhausted before)
    (search : findNextFreePort os before = (port, after)) :
    port < 0 ∧ after.entries = before.entries ∧ after.nextPort = searchStart before := by
  rcases findNextFreePort_cases os before with
    ⟨found, probes, -, unused, lower, upper⟩ | ⟨probes, failed_eq⟩
  · rw [exhausted found lower upper] at unused
    contradiction
  · rw [failed_eq] at search
    rcases search with ⟨rfl, rfl⟩
    exact ⟨by decide, rfl, rfl⟩

theorem addNode_of_exhausted {node : Nodedata Int32} {iteration : Iteration}
    (exhausted : PortsExhausted before) (inRange : CursorInRange before)
    (ran : addNode os networkId node before = some iteration) :
    iteration.final.entries = before.entries ∧ iteration.final.nextPort = before.nextPort := by
  have noPorts {ctrlPort msgPort : ℤ} {searched : State} :
      ¬PortsFound os before ctrlPort msgPort searched := by
    rintro ⟨⟨middle, ctrlSearch, -⟩, ctrl_nonneg, -⟩
    exact ctrl_nonneg (search_of_exhausted exhausted ctrlSearch).1
  cases addNode_path ran with
  | present => exact ⟨rfl, rfl⟩
  | noControlPort _ search _ =>
      rcases search_of_exhausted exhausted search with ⟨-, entries_eq, nextPort_eq⟩
      exact ⟨entries_eq, nextPort_eq.trans inRange.searchStart_eq⟩
  | noMessagePort _ ctrlSearch ctrl_nonneg _ _ =>
      exact absurd (search_of_exhausted exhausted ctrlSearch).1 ctrl_nonneg
  | noMemory _ ports _ _ => exact absurd ports noPorts
  | added _ ports _ _ _ => exact absurd ports noPorts

theorem addNodes_of_exhausted {nodes : List (Nodedata Int32)} (exhausted : PortsExhausted before)
    (inRange : CursorInRange before) (ran : addNodes os networkId nodes before = some after) :
    after.entries = before.entries ∧ after.nextPort = before.nextPort := by
  have kept : ∀ node ∈ nodes, ∀ start iteration,
      addNode os networkId node start = some iteration →
      start.entries = before.entries ∧ start.nextPort = before.nextPort →
      iteration.final.entries = before.entries ∧
        iteration.final.nextPort = before.nextPort := by
    rintro node _ start iteration iterated ⟨entries_eq, nextPort_eq⟩
    rcases addNode_of_exhausted (exhausted.of_entries_eq entries_eq) (inRange.of_eq nextPort_eq)
      iterated with ⟨entries_kept, nextPort_kept⟩
    exact ⟨entries_kept.trans entries_eq, nextPort_kept.trans nextPort_eq⟩
  exact addNodes_invariant kept ran ⟨rfl, rfl⟩

end Loop

/-! ## The same update with all allocations granted -/

section Congr

variable {first second : Os} {state : State}

theorem findNextFreePort_congr (same : first.isPortAvailable = second.isPortAvailable)
    (state : State) : findNextFreePort first state = findNextFreePort second state := by
  have probes_eq (ports : List ℤ) (probes : ℕ) :
      probePorts first ports probes = probePorts second ports probes := by
    induction ports generalizing probes with
    | nil => rfl
    | cons port ports ih => rw [probePorts, probePorts, same, ih]
  simp only [findNextFreePort, scanPorts_eq_probePorts, probes_eq]

theorem addNode_congr {networkId : Int32} {node : Nodedata Int32}
    (same : first.isPortAvailable = second.isPortAvailable) (room : HasRoom 1 state) :
    addNode first networkId node state = addNode second networkId node state := by
  rcases ctrlSearch : findNextFreePort second state with ⟨ctrlPort, middle⟩
  rcases msgSearch : findNextFreePort second middle with ⟨msgPort, searched⟩
  have searched_room := (room.of_frame (findNextFreePort_frame ctrlSearch)).of_frame
    (findNextFreePort_frame msgSearch)
  simp only [addNode, findNextFreePort_congr same, ctrlSearch, msgSearch,
    searched_room.growIfFull first, searched_room.growIfFull second]

/-- While there is room, the answers to `malloc` play no part in the loop. -/
theorem addNodes_congr {networkId : Int32} {nodes : List (Nodedata Int32)}
    (same : first.isPortAvailable = second.isPortAvailable) (allocated : Allocated state)
    (room : HasRoom nodes.length state) :
    addNodes first networkId nodes state = addNodes second networkId nodes state := by
  induction nodes generalizing state with
  | nil => rfl
  | cons node nodes ih =>
      have iteration_eq :
          addNode first networkId node state = addNode second networkId node state :=
        addNode_congr same (room.le (Nat.le_add_left 1 nodes.length))
      rw [addNodes, addNodes, ← iteration_eq]
      cases iterated : addNode first networkId node state with
      | none => rfl
      | some iteration =>
          rcases addNode_of_room allocated room iterated with ⟨middle, rfl, keeps⟩
          exact ih keeps.allocated keeps.room

theorem StartsLoop.congr {list : NodedataList Int32} {ready : State}
    (starts : StartsLoop first list state ready)
    (granted : ∀ allocation, second.malloc allocation = true) :
    StartsLoop second list state ready := by
  rw [startsLoop_iff] at starts ⊢
  rcases starts with ⟨fits, code, ensured, success⟩
  refine ⟨fits, 0, ?_, by decide⟩
  cases ensureDbCapacity_path ensured with
  | enough present need_le =>
      have path : CapacityPath second (askedCapacity list state) (removeObsolete list state) 0 _ :=
        .enough present need_le
      exact path.ensureDbCapacity_eq
  | refused => exact absurd (by decide) success
  | granted short doubled _ fits =>
      have path : CapacityPath second (askedCapacity list state) (removeObsolete list state) 0 _ :=
        .granted short doubled (granted _) fits
      exact path.ensureDbCapacity_eq

end Congr

/-! ## When a failed update changes nothing -/

/-- Whatever the ports answer, an update that returns `NULL` leaves everything as it was. -/
def NullKeepsAll (malloc : ℕ → Bool) (list : NodedataList Int32) (state : State) : Prop :=
  ∀ isPortAvailable after,
    updateNodeinfoDatabase ⟨isPortAvailable, malloc⟩ list state = some (none, after) →
      after.entries = state.entries ∧ after.nextPort = state.nextPort

/--
Nothing was removed before the capacity was refused, or nothing removed and added before
the copy was.
-/
structure NothingToDo (malloc : ℕ → Bool) (list : NodedataList Int32) (state : State) : Prop where
  capacity : CapacityRefused malloc list state → NoneObsolete list state
  snapshot : SnapshotRefused malloc list state →
    UpToDate list state ∨ NoneObsolete list state ∧ PortsExhausted state

section Exact

variable {malloc : ℕ → Bool} {list : NodedataList Int32} {state : State}

theorem nothingToDo_of_nullKeepsAll (managed : Managed state) (computes : Computes list state)
    (keeps : NullKeepsAll malloc list state) : NothingToDo malloc list state := by
  let os : Os := ⟨fun _ _ => true, malloc⟩
  have noneObsolete {after : State}
      (updated : updateNodeinfoDatabase os list state = some (none, after)) :
      NoneObsolete list state := by
    intro element element_mem
    have stepped : manager.step state ⟨os, list⟩ = some after :=
      manager_step_eq_some.mpr ⟨none, updated⟩
    rw [← (keeps _ _ updated).1] at element_mem
    exact isObsolete_eq_false.mpr (listed_of_step stepped element element_mem)
  constructor
  · intro refused
    have refusedHere : CapacityRefused os.malloc list state := refused
    rcases exists_ensured_of_capacityRefused computes refusedHere with ⟨ready, ensured⟩
    exact noneObsolete (update_of_refused computes.1 ensured (by decide))
  · intro refused
    have refusedHere : SnapshotRefused os.malloc list state := refused
    rcases exists_startsLoop_of_snapshotRefused managed.sized computes refusedHere with
      ⟨ready, starts⟩
    rcases starts.exists_final managed.sized managed.isolated with ⟨final, block, added, present⟩
    have loop := starts.keepsRoom managed.sized added
    have refusal := starts.snapshotRefused_iff.mp refused
    rw [← loop.allocations_eq] at refusal
    have updated := starts.update_eq added present
    rw [refusal] at updated
    have none_removed := noneObsolete updated
    have ready_eq : ready.entries = state.entries := by
      rw [starts.entries_eq, removeWhere_eq_self none_removed]
    by_cases exhausted : PortsExhausted state
    · exact Or.inr ⟨none_removed, exhausted⟩
    · refine Or.inl ⟨none_removed, ?_⟩
      rcases managed.sized.startsLoop starts with ⟨allocated, room⟩
      have unchanged : final.entries.length = ready.entries.length := by
        rw [ready_eq, ← (keeps _ _ updated).1]
        rfl
      have unused : ¬PortsExhausted ready := fun all => exhausted (all.of_entries_eq ready_eq.symm)
      have found := present_of_unchanged (fun _ _ => rfl) unused allocated room added unchanged
      simp only [existsInDb] at found ⊢
      rwa [ready_eq] at found

theorem nullKeepsAll_of_nothingToDo (sized : Sized state) (inRange : CursorInRange state)
    (nothing : Computes list state → NothingToDo malloc list state) :
    NullKeepsAll malloc list state := by
  intro isPortAvailable after ran
  have removed_eq (noneObsolete : NoneObsolete list state) :
      removeWhere (isObsolete list) state.entries = state.entries :=
    removeWhere_eq_self noneObsolete
  rcases null_cases ran with
    ⟨computes, refused, entries_eq, nextPort_eq⟩ | ⟨ready, final, starts, added, refusal, rfl⟩
  · rw [entries_eq, entries_removeObsolete, removed_eq ((nothing computes).capacity refused)]
    exact ⟨rfl, nextPort_eq⟩
  · rw [(starts.keepsRoom sized added).allocations_eq] at refusal
    have refused := starts.snapshotRefused_iff.mpr refusal
    rcases exists_ensured_of_update ran with ⟨fits, code, other, ensured⟩
    rcases (nothing (computes_of_ensured fits ensured)).snapshot refused with
      upToDate | ⟨noneObsolete, exhausted⟩
    · exact upToDate.update ran
    · have ready_eq : ready.entries = state.entries :=
        starts.entries_eq.trans (removed_eq noneObsolete)
      have loop := addNodes_of_exhausted (exhausted.of_entries_eq ready_eq)
        (inRange.of_eq starts.nextPort_eq) added
      exact ⟨loop.1.trans ready_eq, loop.2.trans starts.nextPort_eq⟩

end Exact

/--
An update that returns `NULL` leaves the entries and the cursor as they were, whatever
the ports answer, exactly when it had nothing to do before the allocation that failed.
Otherwise it leaves the entries that are not obsolete, or the state in which it would
have returned a copy.
-/
theorem null_keeps_iff (calls : List Call) (state : State) (malloc : ℕ → Bool)
    (list : NodedataList Int32) (ran : manager.run calls = some state) :
    (NullKeepsAll malloc list state ↔ (Computes list state → NothingToDo malloc list state)) ∧
      ∀ isPortAvailable after,
        updateNodeinfoDatabase ⟨isPortAvailable, malloc⟩ list state = some (none, after) →
          (CapacityRefused malloc list state ∧
              after.entries = (removeObsolete list state).entries ∧
              after.nextPort = state.nextPort) ∨
            SnapshotRefused malloc list state ∧ ∃ snapshot,
              updateNodeinfoDatabase ⟨isPortAvailable, fun _ => true⟩ list state =
                some (some snapshot, after) := by
  have managed : Managed state := ⟨.of_run ran, .of_run ran⟩
  refine ⟨⟨?_, ?_⟩, ?_⟩
  · intro keeps computes
    exact nothingToDo_of_nullKeepsAll managed computes keeps
  · intro nothing
    exact nullKeepsAll_of_nothingToDo managed.sized (.of_run ran) nothing
  · intro isPortAvailable after updated
    rcases null_cases updated with
      ⟨-, refused, entries_eq, nextPort_eq⟩ | ⟨ready, final, starts, added, refusal, rfl⟩
    · exact Or.inl ⟨refused, entries_eq, nextPort_eq⟩
    · right
      have loop := starts.keepsRoom managed.sized added
      rw [loop.allocations_eq] at refusal
      refine ⟨starts.snapshotRefused_iff.mpr refusal, ?_⟩
      let generous : Os := ⟨isPortAvailable, fun _ => true⟩
      have startsGenerous : StartsLoop generous list state ready := starts.congr fun _ => rfl
      rcases managed.sized.startsLoop starts with ⟨allocated, room⟩
      have addedGenerous : addNodes generous list.networkId list.entries ready = some final := by
        rw [← added]
        exact addNodes_congr rfl allocated room
      rcases Option.isSome_iff_exists.mp loop.allocated.present with ⟨block, present⟩
      exact ⟨block.snapshot, startsGenerous.update_eq addedGenerous present⟩

/-- One node is stored, and every allocation of the next update fails. -/
theorem null_keeps_iff_singletonList : ∃ state,
    manager.run [⟨grantingOs, singletonList 1 21⟩] = some state ∧
    (NullKeepsAll (fun _ => false) (singletonList 1 22) state ↔
        (Computes (singletonList 1 22) state →
          NothingToDo (fun _ => false) (singletonList 1 22) state)) ∧
      ∀ isPortAvailable after,
        updateNodeinfoDatabase ⟨isPortAvailable, fun _ => false⟩ (singletonList 1 22) state =
            some (none, after) →
          (CapacityRefused (fun _ => false) (singletonList 1 22) state ∧
              after.entries = (removeObsolete (singletonList 1 22) state).entries ∧
              after.nextPort = state.nextPort) ∨
            SnapshotRefused (fun _ => false) (singletonList 1 22) state ∧ ∃ snapshot,
              updateNodeinfoDatabase ⟨isPortAvailable, fun _ => true⟩ (singletonList 1 22) state =
                some (some snapshot, after) := by
  have runs : (manager.run [⟨grantingOs, singletonList 1 21⟩]).isSome := by decide
  rcases Option.isSome_iff_exists.mp runs with ⟨state, ran⟩
  exact ⟨state, ran, null_keeps_iff _ state _ _ ran⟩

/-- The copy is refused after the stored node was replaced by another one. -/
theorem not_forall_null_keeps : ¬∀ (calls : List Call) (state : State) (os : Os)
    (list : NodedataList Int32) (after : State), manager.run calls = some state →
      updateNodeinfoDatabase os list state = some (none, after) →
        after.entries = state.entries ∧ after.nextPort = state.nextPort := by
  intro always
  have result : ((manager.run [⟨grantingOs, singletonList 1 21⟩]).bind fun before =>
      (updateNodeinfoDatabase ⟨fun _ _ => true, fun _ => false⟩ (singletonList 1 22) before).map
        fun outcome =>
          (outcome.1.isNone, before.nextPort, outcome.2.nextPort)) = some (true, 10002, 10004) := by
    decide
  rw [Option.bind_eq_some_iff] at result
  rcases result with ⟨state, ran, result⟩
  rw [Option.map_eq_some_iff] at result
  rcases result with ⟨⟨copy, after⟩, updated, result⟩
  simp only [Prod.mk.injEq, Option.isNone_iff_eq_none] at result
  rcases result with ⟨rfl, before_port, after_port⟩
  have same := (always _ state _ _ after ran updated).2
  rw [before_port, after_port] at same
  exact absurd same (by decide)

end NodeinfoSystem.Database
