import NodeinfoSystem.Collector.Member
import NodeinfoSystem.Collector.RelayTimeouts

/-!
# The two files of a node

`nodeinfo` and `hostfile` are replaced one after the other, each as a whole. Both
loops return when the second update fails, and nothing puts the first file back:
that return is the only point at which the files can name different hosts.
-/

namespace NodeinfoSystem.Collector

open Foundation

/-- Both files name the same hosts in the same order, or neither exists. -/
def FilesAgree (nodeinfo hostfile : Files.File) : Prop :=
  nodeinfo.target.map Files.listedHosts = hostfile.target.map Files.listedHosts

theorem filesAgree_of_texts {nodeinfo hostfile : Files.File} {nodes : List (Nodedata UInt32)}
    (nodeinfo_eq : nodeinfo.target = some (Files.nodeinfoText nodes))
    (hostfile_eq : hostfile.target = some (Files.hostfileText nodes)) :
    FilesAgree nodeinfo hostfile := by
  rw [FilesAgree, nodeinfo_eq, hostfile_eq, Option.map_some, Option.map_some,
    Files.listedHosts_nodeinfoText]

/-! ## Members -/

def MemberState.Agrees (state : MemberState) : Prop :=
  FilesAgree state.nodeinfo state.hostfile

/-- The files agree, unless the procedure has returned for the second of them. -/
def MemberState.KeepsFiles (status : Status MemberExit MemberState) : Prop :=
  status.Satisfies Agrees fun exit after => exit ≠ .hostfile → after.Agrees

theorem updateFiles_keepsFiles {round : MemberRound} {nodes : List (Nodedata UInt32)}
    {state : MemberState} (agrees : state.Agrees) :
    MemberState.KeepsFiles (updateFiles round nodes state) := by
  unfold updateFiles
  split
  next nodeinfoCode nodeinfo nodeinfoUpdated =>
    let half : MemberState := { state with nodeinfo := nodeinfo }
    have written : (Status.check .nodeinfo nodeinfoCode half).Satisfies
        (fun after => after = half ∧ nodeinfo.target = some (Files.nodeinfoText nodes))
        fun exit after => exit ≠ MemberExit.hostfile → after.Agrees := by
      apply Status.satisfies_check
      · intro success
        exact ⟨rfl, Files.target_of_updateFile nodeinfoUpdated success⟩
      · intro failure _
        rw [MemberState.Agrees, FilesAgree, Files.target_eq_of_updateFile nodeinfoUpdated failure]
        exact agrees
    apply written.andThen
    rintro _ ⟨rfl, nodeinfo_eq⟩
    split
    next hostfileCode hostfile hostfileUpdated =>
      apply Status.satisfies_check
      · intro success
        exact filesAgree_of_texts nodeinfo_eq (Files.target_of_updateFile hostfileUpdated success)
      · intro _ other
        contradiction

theorem memberRound_keepsFiles (round : MemberRound) (state : MemberState)
    (agrees : state.Agrees) : MemberState.KeepsFiles (memberRound round state) := by
  simp only [memberRound]
  split
  · split
    · exact fun _ => agrees
    · exact updateFiles_keepsFiles agrees
  · split
    · split
      · exact fun _ => agrees
      · exact agrees
    · exact fun _ => agrees

/-! ## Masters -/

def MasterState.Agrees (state : MasterState) : Prop :=
  FilesAgree state.nodeinfo state.hostfile

/-- What a master keeps from one wait to the next. -/
structure Consistent (networkId : Int32) (rounds : List Round) (state : MasterState) : Prop where
  room : HasRoomFor networkId rounds state
  agrees : state.Agrees

/-- Between the two updates: `nodeinfo` has been written from the list. -/
structure HalfUpdated (networkId : Int32) (rounds : List Round) (state : MasterState) : Prop where
  room : HasRoomFor networkId rounds state
  written : ∀ block, state.Lists block →
    state.nodeinfo.target = some (Files.nodeinfoText block.entries)

/-- As for a member; `holds` is what is known where the master goes on. -/
def MasterState.KeepsFiles (holds : MasterState → Prop) (status : Status MasterExit MasterState) :
    Prop :=
  status.Satisfies holds fun exit after => exit ≠ .hostfile → after.Agrees

section MasterSteps

open MasterState (KeepsFiles)

variable {networkId : Int32} {round : Round} {rounds : List Round} {state : MasterState}

theorem addStep_keepsFiles (consistent : Consistent networkId (round :: rounds) state) :
    KeepsFiles (Consistent networkId rounds)
      (addStep round (acceptMemberRequest round.control) state) := by
  apply (addStep_satisfies consistent.room).imp
  · rintro after ⟨room, after_eq⟩
    refine ⟨room, ?_⟩
    rw [after_eq]
    exact consistent.agrees
  · intro _ _ impossible
    contradiction

theorem nodeinfoStep_keepsFiles (round : Round) (consistent : Consistent networkId rounds state) :
    KeepsFiles (HalfUpdated networkId rounds) (nodeinfoStep round state) := by
  rcases consistent.room with ⟨block, count, lists, holds, inside⟩
  apply (nodeinfoStep_satisfies round lists).imp
  · rintro after ⟨after_eq, written⟩
    have master_eq : after.master = state.master := by rw [after_eq]
    refine ⟨consistent.room.of_master_eq master_eq, ?_⟩
    intro other otherLists
    rw [MasterState.Lists, master_eq, lists, Option.some.injEq] at otherLists
    rw [written, otherLists]
  · rintro _ after ⟨-, hostfile_eq, nodeinfo_eq⟩ _
    rw [MasterState.Agrees, FilesAgree, hostfile_eq, nodeinfo_eq]
    exact consistent.agrees

theorem hostfileStep_keepsFiles (round : Round) (half : HalfUpdated networkId rounds state) :
    KeepsFiles (Consistent networkId rounds) (hostfileStep round state) := by
  rcases half.room with ⟨block, count, lists, holds, inside⟩
  apply (hostfileStep_satisfies round lists).imp
  · rintro after ⟨after_eq, written⟩
    have master_eq : after.master = state.master := by rw [after_eq]
    have nodeinfo_eq : after.nodeinfo = state.nodeinfo := by rw [after_eq]
    refine ⟨half.room.of_master_eq master_eq, ?_⟩
    apply filesAgree_of_texts _ written
    rw [nodeinfo_eq]
    exact half.written block lists
  · intro _ _ exit_eq other
    exact absurd exit_eq other

theorem Consistent.keepsFiles {status : Status MasterExit MasterState} {exit : MasterExit}
    (consistent : Consistent networkId rounds state)
    (touches : TouchesDatabaseOnly exit state status) :
    KeepsFiles (Consistent networkId rounds) status := by
  apply touches.imp
  · intro after after_eq
    rw [after_eq]
    exact ⟨consistent.room.of_master_eq rfl, consistent.agrees⟩
  · rintro _ _ ⟨-, rfl⟩ _
    exact consistent.agrees

theorem masterRound_keepsFiles (consistent : Consistent networkId (round :: rounds) state) :
    KeepsFiles (Consistent networkId rounds) (masterRound round state) := by
  have rest : Consistent networkId rounds state := ⟨consistent.room.tail, consistent.agrees⟩
  have distributeDatabase (state : MasterState) (consistent : Consistent networkId rounds state) :=
    consistent.keepsFiles (distributeDatabaseStep_touches round state)
  simp only [masterRound]
  split
  · exact fun _ => consistent.agrees
  · split
    · unfold timeoutRound
      split
      · exact (rest.keepsFiles (fetchStep_touches round state)).andThen distributeDatabase
      · exact rest
    · split
      · have added := addStep_keepsFiles consistent
        have distributed := added.andThen fun state consistent =>
          consistent.keepsFiles (distributeListStep_touches round state)
        have half := distributed.andThen fun _ => nodeinfoStep_keepsFiles round
        have updated := half.andThen fun _ => hostfileStep_keepsFiles round
        have fetched := updated.andThen fun state consistent =>
          consistent.keepsFiles (fetchIfJoinedStep_touches round state)
        exact fetched.andThen distributeDatabase
      · exact fun _ => consistent.agrees

end MasterSteps

/-! ## Whole runs -/

/--
Wherever either loop waits the files agree, and where it has returned too, unless it
returned because `hostfile` could not be replaced. For a master this is so while no
join finds its list full.
-/
theorem files_agree :
    (∀ (start : MemberState) (rounds : List MemberRound) (final : Status MemberExit MemberState),
      start.Agrees → (memberProcedure start).run rounds = some final →
        final.Satisfies MemberState.Agrees fun exit after => exit ≠ .hostfile → after.Agrees) ∧
    ∀ (start : MasterStart) (nodeinfo hostfile : Files.File) (state : MasterState)
      (rounds : List Round) (final : Status MasterExit MasterState),
      masterStart start nodeinfo hostfile = some state → FilesAgree nodeinfo hostfile →
        joinCount rounds ≤ 15 → (masterProcedure state).run rounds = some final →
          final.Satisfies MasterState.Agrees fun exit after => exit ≠ .hostfile → after.Agrees := by
  refine ⟨?_, ?_⟩
  · intro start rounds final agrees ran
    exact Status.loop_invariant memberRound_keepsFiles ran agrees
  · intro start nodeinfo hostfile state rounds final started agrees few ran
    have room := hasRoomFor_masterStart started few
    have consistent : Consistent (requestJoinHugeCluster start.join) rounds state := by
      refine ⟨room, ?_⟩
      rw [masterStart, Option.map_eq_some_iff] at started
      rcases started with ⟨master, -, rfl⟩
      exact agrees
    have kept (round : Round) (rest : List Round) (state : MasterState)
        (consistent : Consistent (requestJoinHugeCluster start.join) (round :: rest) state) :=
      masterRound_keepsFiles consistent
    apply (Status.loop_satisfies _ kept ran consistent).imp
    · intro after consistent
      exact consistent.agrees
    · intro exit after ended
      exact ended

/-! ## A run of a member, and one of a master -/

theorem length_readySendNodedataListMsg_le :
    Wire.readySendNodedataListMsg.length ≤ Wire.maxUdpPayload := by
  decide

def announcement : Wire.Datagram where
  bytes := Wire.readySendNodedataListMsg
  fits := length_readySendNodedataListMsg_le

/-- A list arrives, `nodeinfo` is replaced, and the new `hostfile` cannot be opened. -/
def halfUpdate (payload : Wire.Datagram) : MemberRound where
  control := ⟨true, true, .datagram announcement⟩
  data := ⟨true, true, .datagram payload⟩
  bufferGranted := true
  copyGranted := true
  nodeinfoIo := Files.allGranted
  hostfileIo := { Files.allGranted with fopen := false }

/-- The list of the network 1 with the one node 192.168.0.1. -/
def listMessage : Wire.Datagram where
  bytes := [16, 0, 0, 0, 1, 0, 0, 0, 1, 0, 0, 0, 192, 168, 0, 1, 7, 0, 0, 0, 4, 0, 0, 0]
  fits := by decide

/-- A list arrives, and both files are replaced. -/
def wholeUpdate : MemberRound :=
  { halfUpdate listMessage with hostfileIo := Files.allGranted }

def noFiles : MemberState := ⟨⟨none, none⟩, ⟨none, none⟩⟩

def updatedFiles : MemberState where
  nodeinfo := ⟨some "192.168.0.1 u0_a7\n".toList, none⟩
  hostfile := ⟨some "192.168.0.1 cpu=4\n".toList, none⟩

/-- A member replaces both files, and a master returns when its relay stops answering. -/
theorem files_agree_silentRun :
    ((memberProcedure noFiles).run [wholeUpdate] = some (.waiting updatedFiles) ∧
      updatedFiles.Agrees) ∧
    ∃ state last, masterStart joinedStart ⟨none, none⟩ ⟨none, none⟩ = some state ∧
      (masterProcedure state).run silentRun = some (.returned .fetch last) ∧
      last.hostfile.target = some "1.0.0.0 cpu=4\n2.0.0.0 cpu=8\n".toList ∧ last.Agrees := by
  have updated : (memberProcedure noFiles).run [wholeUpdate] = some (.waiting updatedFiles) := rfl
  refine ⟨⟨updated, ?_⟩, _, _, rfl, rfl, rfl, ?_⟩
  · exact files_agree.1 noFiles [wholeUpdate] (.waiting updatedFiles) (Eq.refl none) updated
  · exact files_agree.2 joinedStart ⟨none, none⟩ ⟨none, none⟩ _ silentRun (.returned .fetch _) rfl
      (Eq.refl none) (by decide) rfl (by decide)

/-! ## A hostfile that cannot be opened -/

theorem identifyDataType_announcement :
    identifyDataTypeFromMaster ⟨true, true, .datagram announcement⟩ = nodedataListType := by
  decide

theorem memberRound_halfUpdate {payload : Wire.Datagram} {list : NodedataList UInt32}
    (received : Wire.Member.receiveNodedataList true true (some payload) = some list)
    (state : MemberState) :
    memberRound (halfUpdate payload) state =
      .returned .hostfile ⟨⟨some (Files.nodeinfoText list.entries), none⟩, state.hostfile⟩ := by
  have arrived : (halfUpdate payload).data.received = some payload := rfl
  have announced : identifyDataTypeFromMaster (halfUpdate payload).control = nodedataListType :=
    identifyDataType_announcement
  have granted : Wire.Member.receiveNodedataList (halfUpdate payload).bufferGranted
      (halfUpdate payload).copyGranted (some payload) = some list := received
  have replaced : Files.updateNodeinfo (halfUpdate payload).nodeinfoIo list.entries state.nodeinfo =
      (0, ⟨some (Files.nodeinfoText list.entries), none⟩) :=
    Files.updateFile_allGranted Files.nodeinfoLine list.entries state.nodeinfo
  simp only [memberRound, announced, if_true, arrived, granted, updateFiles, replaced]
  -- the hostfile update ends at `fopen`
  rfl

/-- The files of a member that returned after half an update name different hosts. -/
theorem not_always_files_agree :
    ¬((∀ (start : MemberState) (rounds : List MemberRound) (final : Status MemberExit MemberState),
        start.Agrees → (memberProcedure start).run rounds = some final →
          final.Satisfies MemberState.Agrees fun _ after => after.Agrees) ∧
      ∀ (start : MasterStart) (nodeinfo hostfile : Files.File) (state : MasterState)
        (rounds : List Round) (final : Status MasterExit MasterState),
        masterStart start nodeinfo hostfile = some state → FilesAgree nodeinfo hostfile →
          (masterProcedure state).run rounds = some final →
            final.Satisfies MasterState.Agrees fun _ after => after.Agrees) := by
  rintro ⟨always, -⟩
  have nonneg : 0 ≤ twoNodes.currentSize.toInt := by decide
  have inside : twoNodes.currentSize.toInt ≤ twoNodes.slots.length := by decide
  rcases listPayload_eq nonneg (by decide) inside with ⟨payload, -, bytes_eq⟩
  rcases Wire.Member.receiveNodedataList_encode nonneg bytes_eq with ⟨list, received, -⟩
  let start : MemberState := ⟨⟨none, none⟩, ⟨none, none⟩⟩
  have ran : (memberProcedure start).run [halfUpdate payload] =
      some (.returned .hostfile
        ⟨⟨some (Files.nodeinfoText list.entries), none⟩, ⟨none, none⟩⟩) := by
    rw [← memberRound_halfUpdate received start]
    rfl
  have agrees := always start _ _ (Eq.refl none) ran
  contradiction

end NodeinfoSystem.Collector
