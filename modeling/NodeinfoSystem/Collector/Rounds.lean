import NodeinfoSystem.Collector.Joins
import NodeinfoSystem.Collector.Master

/-!
# Rounds below the initial capacity

As long as no join finds the list full, `nd_list` names a live block of sixteen
slots, and every step of a round reads the same list from it. A master starts with
its own entry, so this is so in the runs with at most fifteen joins.
-/

namespace NodeinfoSystem.Collector

open Foundation

/-- A block of the initial capacity with the given number of entries and network id. -/
structure ListBlock.Holds (count : ℕ) (networkId : Int32) (block : ListBlock) : Prop where
  wellFormed : block.WellFormed
  maxSize_eq : block.maxSize.toInt = 16
  currentSize_eq : block.currentSize.toInt = count
  networkId_eq : block.networkId = networkId

def MasterState.Lists (block : ListBlock) (state : MasterState) : Prop :=
  state.master.heap.load state.master.ndList = some block

theorem MasterState.Lists.list_eq {block : ListBlock} {state : MasterState}
    (lists : state.Lists block) (round : Round) (read : ListRead) :
    state.list round read = block := by
  rw [MasterState.list, lists, Option.getD_some]

theorem holds_startMaster {malloc : Option Garbage} {me : Nodedata UInt32} {networkId : Int32}
    {start : Master} (started : startMaster malloc me networkId = some start) :
    ∃ block, start.heap.load start.ndList = some block ∧ block.Holds 1 networkId := by
  rcases startMaster_eq_some started with ⟨garbage, live⟩
  have room : (emptyList garbage).currentSize.toInt < (emptyList garbage).maxSize.toInt := by
    simp [emptyList, initialSizeOfNodedataList]
  have pushed := ListBlock.wellFormed_push (wellFormed_emptyList garbage) room me
  have counted := ListBlock.toInt_currentSize_push (wellFormed_emptyList garbage) room me
  refine ⟨_, live, ⟨pushed.nonneg, pushed.bounded, pushed.slots_length⟩, ?_, ?_, rfl⟩
  · rw [ListBlock.maxSize_push]
    simp [emptyList, initialSizeOfNodedataList]
  · simp only [counted]
    simp [emptyList]

theorem ListBlock.Holds.push {count : ℕ} {networkId : Int32} {block : ListBlock}
    (holds : block.Holds count networkId) (room : count < 16) (node : Nodedata UInt32) :
    (block.push node).Holds (count + 1) networkId := by
  have maxSize_eq := holds.maxSize_eq
  have currentSize_eq := holds.currentSize_eq
  have notFull : block.currentSize.toInt < block.maxSize.toInt := by omega
  refine ⟨wellFormed_push holds.wellFormed notFull node, ?_, ?_, ?_⟩
  · rw [maxSize_push, maxSize_eq]
  · rw [toInt_currentSize_push holds.wellFormed notFull, currentSize_eq]
    omega
  · rw [networkId_push, holds.networkId_eq]

/-! ## Joins -/

def Round.isJoin (round : Round) : Bool :=
  acceptMemberRequest round.control == joinRequestCode

/-- The join requests among the rounds. -/
def joinCount (rounds : List Round) : ℕ :=
  rounds.countP Round.isJoin

theorem joinCount_cons (round : Round) (rounds : List Round) :
    joinCount (round :: rounds) = joinCount rounds + if round.isJoin then 1 else 0 := by
  rw [joinCount, List.countP_cons]
  rfl

/-- A master whose list has room for the joins that are still to come. -/
def HasRoomFor (networkId : Int32) (rounds : List Round) (state : MasterState) : Prop :=
  ∃ block count, state.Lists block ∧ block.Holds count networkId ∧ count + joinCount rounds ≤ 16

theorem HasRoomFor.of_master_eq {networkId : Int32} {rounds : List Round}
    {before after : MasterState} (room : HasRoomFor networkId rounds before)
    (master_eq : after.master = before.master) : HasRoomFor networkId rounds after := by
  rcases room with ⟨block, count, lists, holds, inside⟩
  refine ⟨block, count, ?_, holds, inside⟩
  rw [MasterState.Lists, master_eq]
  exact lists

theorem HasRoomFor.tail {networkId : Int32} {round : Round} {rounds : List Round}
    {state : MasterState} (room : HasRoomFor networkId (round :: rounds) state) :
    HasRoomFor networkId rounds state := by
  rcases room with ⟨block, count, lists, holds, inside⟩
  rw [joinCount_cons] at inside
  exact ⟨block, count, lists, holds, by omega⟩

theorem hasRoomFor_masterStart {start : MasterStart} {nodeinfo hostfile : Files.File}
    {state : MasterState} {rounds : List Round}
    (started : masterStart start nodeinfo hostfile = some state) (few : joinCount rounds ≤ 15) :
    HasRoomFor (requestJoinHugeCluster start.join) rounds state := by
  rw [masterStart, Option.map_eq_some_iff] at started
  rcases started with ⟨master, started, rfl⟩
  rcases holds_startMaster started with ⟨block, live, holds⟩
  exact ⟨block, 1, live, holds, by omega⟩

theorem addStep_satisfies {networkId : Int32} {round : Round} {rounds : List Round}
    {state : MasterState} (room : HasRoomFor networkId (round :: rounds) state) :
    (addStep round (acceptMemberRequest round.control) state).Satisfies
      (fun after => HasRoomFor networkId rounds after ∧
        after = { state with master := after.master })
      fun _ _ => False := by
  unfold addStep
  split
  · next isJoin =>
      rcases room with ⟨block, count, lists, holds, inside⟩
      have counts : round.isJoin = true := by simp [Round.isJoin, isJoin]
      rw [joinCount_cons, if_pos counts] at inside
      have maxSize_eq := holds.maxSize_eq
      have currentSize_eq := holds.currentSize_eq
      have notFull : block.currentSize.toInt < block.maxSize.toInt := by omega
      rw [addNodedataToList_of_room lists notFull]
      refine ⟨⟨_, count + 1, Heap.load_store lists _, holds.push (by omega) _, by omega⟩, rfl⟩
  · exact ⟨room.tail, rfl⟩

/-! ## The other steps -/

section Steps

variable (round : Round) (state : MasterState)

/-- A step that changes at most the stored database, and nothing at all when it returns. -/
def TouchesDatabaseOnly (exit : MasterExit) (state : MasterState)
    (status : Status MasterExit MasterState) : Prop :=
  status.Satisfies (fun after => after = { state with gNodeinfoDb := after.gNodeinfoDb })
    fun other after => other = exit ∧ after = state

theorem distributeListStep_touches :
    TouchesDatabaseOnly .nodedataList state (distributeListStep round state) :=
  Status.satisfies_check (fun _ => rfl) (fun _ => ⟨rfl, rfl⟩)

theorem distributeDatabaseStep_touches :
    TouchesDatabaseOnly .nodeinfoDatabase state (distributeDatabaseStep round state) :=
  Status.satisfies_check (fun _ => rfl) (fun _ => ⟨rfl, rfl⟩)

theorem fetchStep_touches : TouchesDatabaseOnly .fetch state (fetchStep round state) := by
  unfold fetchStep
  split
  next code db fetched =>
    apply Status.satisfies_check
    · intro _
      rfl
    · intro failed
      rw [fetchNodeinfoDatabase_failed fetched failed]
      exact ⟨rfl, rfl⟩

theorem fetchIfJoinedStep_touches :
    TouchesDatabaseOnly .fetch state (fetchIfJoinedStep round state) := by
  unfold fetchIfJoinedStep
  split
  · exact fetchStep_touches round state
  · rfl

variable {state} {block : ListBlock}

theorem nodeinfoStep_satisfies (lists : state.Lists block) :
    (nodeinfoStep round state).Satisfies
      (fun after => after = { state with nodeinfo := after.nodeinfo } ∧
        after.nodeinfo.target = some (Files.nodeinfoText block.entries))
      fun exit after => exit = .nodeinfo ∧ after.hostfile = state.hostfile ∧
        after.nodeinfo.target = state.nodeinfo.target := by
  unfold nodeinfoStep
  rw [lists.list_eq]
  split
  next code nodeinfo updated =>
    apply Status.satisfies_check
    · intro success
      exact ⟨rfl, Files.target_of_updateFile updated success⟩
    · intro failure
      exact ⟨rfl, rfl, Files.target_eq_of_updateFile updated failure⟩

theorem hostfileStep_satisfies (lists : state.Lists block) :
    (hostfileStep round state).Satisfies
      (fun after => after = { state with hostfile := after.hostfile } ∧
        after.hostfile.target = some (Files.hostfileText block.entries))
      fun exit _ => exit = .hostfile := by
  unfold hostfileStep
  rw [lists.list_eq]
  split
  next code hostfile updated =>
    apply Status.satisfies_check
    · intro success
      exact ⟨rfl, Files.target_of_updateFile updated success⟩
    · intro _
      rfl

end Steps

end NodeinfoSystem.Collector
