import NodeinfoSystem.Collector.Handoff
import NodeinfoSystem.Resources.Common

/-!
# What a member holds

A member closes every socket and every file it opens, on every way through its
functions, and it frees its receive buffers and the lists it receives. The databases
are another matter: `run_member_node_procedure` prints them and goes on, so the block
of every database it ever received stays allocated.
-/

namespace NodeinfoSystem.Resources

open Foundation Wire
open Collector (BoundAnswers Exchange LongType MemberExit MemberRound MemberState SendAnswers
  SentNodedata ValidNode memberProcedure nodedataListType nodeinfoDatabaseType)

/-! ## Joining -/

/-- The code of `request_join_cluster`. -/
def joinCode (exchange : Exchange) : ℤ :=
  if exchange.socket && exchange.sendto then
    match wrappedRecvfrom 255 exchange.reply with
    | (r, _) => if 0 < r then r else if r = isTimeout.toInt then isTimeout.toInt else -1
  else -1

def requestJoinCluster (exchange : Exchange) : Program ℤ :=
  if exchange.socket then do
    let broadcastSock ← acquire .descriptor
    access broadcastSock
    if exchange.sendto then
      access broadcastSock
      match wrappedRecvfrom 255 exchange.reply with
      | (r, _) =>
          if 0 < r then
            release broadcastSock
            return r
          else if r = isTimeout.toInt then
            release broadcastSock
            return isTimeout.toInt
          else
            release broadcastSock
            return -1
    else
      release broadcastSock
      return -1
  else return -1

/-- `send_my_nodedata`; stuck where the parser of the user name has undefined behaviour. -/
def sendMyNodedata (long : LongType) (answers : SendAnswers) : Program SentNodedata :=
  if answers.socket then do
    let sock ← acquire .descriptor
    access sock
    if answers.connect then
      let _ ← ownAddress answers.host
      match Collector.getMyNodedata long answers.host with
      | none => stuck
      | some node =>
          if ValidNode node then
            access sock
            match answers.send with
            | none =>
                release sock
                return ⟨-1, []⟩
            | some taken =>
                release sock
                return ⟨0, (encodeNodedata collectorAddress node).take taken⟩
          else
            release sock
            return ⟨-1, []⟩
    else
      release sock
      return ⟨-1, []⟩
  else return ⟨-1, []⟩

theorem meets_requestJoinCluster (exchange : Exchange) :
    Meets ∅ (requestJoinCluster exchange) (returns (joinCode exchange) ∅) := by
  simp only [requestJoinCluster, joinCode, Bool.and_eq_true, ite_and]
  apply Meets.ite
  · apply meets_acquire
    intro sock _ fresh
    have owned := Finset.mem_insert_self sock ∅
    apply meets_access owned
    apply Meets.ite
    · apply meets_access owned
      apply Meets.ite
      · exact meets_close fresh _
      · apply Meets.ite
        · exact meets_close fresh _
        · exact meets_close fresh _
    · exact meets_close fresh _
  · exact meets_return _ ∅

theorem meets_sendMyNodedata {long : LongType} {answers : SendAnswers} {sent : SentNodedata}
    (returned : Collector.sendMyNodedata long answers = some sent) :
    Meets ∅ (sendMyNodedata long answers) (returns sent ∅) := by
  unfold Collector.sendMyNodedata at returned
  unfold sendMyNodedata
  cases socket_eq : answers.socket with
  | false =>
      simp only [socket_eq, Bool.false_and, Bool.false_eq_true, if_false] at returned
      obtain rfl := Option.some.inj returned
      exact meets_return _ ∅
  | true =>
      rw [if_pos rfl]
      apply meets_acquire
      intro sock _ fresh
      have owned := Finset.mem_insert_self sock ∅
      apply meets_access owned
      cases connect_eq : answers.connect with
      | false =>
          simp only [connect_eq, Bool.and_false, Bool.false_eq_true, if_false] at returned
          obtain rfl := Option.some.inj returned
          exact meets_close fresh _
      | true =>
          simp only [socket_eq, connect_eq, Bool.and_true, if_true] at returned
          rw [if_pos rfl]
          apply (meets_ownAddress answers.host).call
          cases found : Collector.getMyNodedata long answers.host with
          | none =>
              rw [found] at returned
              contradiction
          | some node =>
              simp only [found] at returned ⊢
              split at returned
              · next valid =>
                  rw [if_pos valid]
                  apply meets_access owned
                  cases send_eq : answers.send with
                  | none =>
                      rw [send_eq] at returned
                      obtain rfl := Option.some.inj returned
                      exact meets_close fresh _
                  | some taken =>
                      rw [send_eq] at returned
                      obtain rfl := Option.some.inj returned
                      exact meets_close fresh _
              · next invalid =>
                  rw [if_neg invalid]
                  obtain rfl := Option.some.inj returned
                  exact meets_close fresh _

/-! ## The loop -/

def identifyDataTypeFromMaster (answers : BoundAnswers) : Program ℤ :=
  if answers.socket then do
    let sock ← acquire .descriptor
    access sock
    if answers.bind then
      access sock
      match wrappedRecvfrom 255 answers.reception with
      | (r, bytes) =>
          if r ≤ 0 then
            release sock
            return -1
          else if cString bytes = readySendNodedataListMsg then
            access sock
            release sock
            return nodedataListType
          else if cString bytes = readySendDbMsg then
            access sock
            release sock
            return nodeinfoDatabaseType
          else
            release sock
            return 0
    else
      release sock
      return -1
  else return -1

/-- `receive_nodedata_list` of a member, with the block of the list it returns. -/
def receiveNodedataList (answers : BoundAnswers) (bufferGranted copyGranted : Bool) :
    Program (Option (Item × NodedataList UInt32)) :=
  if bufferGranted then do
    let recvBuf ← acquire .block
    if answers.socket then
      let sock ← acquire .descriptor
      access sock
      if answers.bind then
        access sock
        access recvBuf
        match answers.reception.received with
        | none =>
            release sock
            release recvBuf
            return none
        | some datagram =>
            if datagram.bytes.length = 0 then
              release sock
              release recvBuf
              return none
            else if datagram.bytes.length < nodedataListSize then
              release sock
              release recvBuf
              return none
            else if copyGranted then
              let list ← acquire .block
              access recvBuf
              access list
              if rejected : datagram.bytes.length < expectedListSize datagram.bytes then
                release sock
                release recvBuf
                release list
                return none
              else
                release sock
                release recvBuf
                return some (list, overlayNodedataList collectorAddress datagram rejected)
            else
              release sock
              release recvBuf
              return none
      else
        release sock
        release recvBuf
        return none
    else
      release recvBuf
      return none
  else return none

/-- The updates after a list has been received; its block is freed on every way. -/
def updateFiles (receivedList : Item) (round : MemberRound) (nodes : List (Nodedata UInt32))
    (state : MemberState) : Program (Status MemberExit MemberState) := do
  access receivedList
  let (code, nodeinfo) ← updateFile Files.nodeinfoLine round.nodeinfoIo nodes state.nodeinfo
  let state := { state with nodeinfo := nodeinfo }
  if code < 0 then
    release receivedList
    return .returned .nodeinfo state
  else
    access receivedList
    let (code, hostfile) ← updateFile Files.hostfileLine round.hostfileIo nodes state.hostfile
    let state := { state with hostfile := hostfile }
    if code < 0 then
      release receivedList
      return .returned .hostfile state
    else
      release receivedList
      return .waiting state

def listRound (round : MemberRound) (state : MemberState) :
    Program (Status MemberExit MemberState) := do
  match ← receiveNodedataList round.data round.bufferGranted round.copyGranted with
  | none => return .returned .nodedataList state
  | some (receivedList, list) => updateFiles receivedList round list.entries state

/-- The branch for a database: it is printed, and `db` is assigned anew before its next use. -/
def databaseRound (round : MemberRound) (state : MemberState) :
    Program (Status MemberExit MemberState) := do
  match ← receiveNodeinfoDatabaseBound round.data round.bufferGranted with
  | none => return .returned .nodeinfoDatabase state
  | some (db, _) =>
      access db
      return .waiting state

/-- One round of the loop of `run_member_node_procedure`. -/
def memberRound (round : MemberRound) (state : MemberState) :
    Program (Status MemberExit MemberState) := do
  let dataType ← identifyDataTypeFromMaster round.control
  if dataType = nodedataListType then listRound round state
  else if dataType = nodeinfoDatabaseType then databaseRound round state
  else return .returned .dataType state

theorem meets_identifyDataTypeFromMaster (answers : BoundAnswers) :
    Meets ∅ (identifyDataTypeFromMaster answers)
      (returns (Collector.identifyDataTypeFromMaster answers) ∅) := by
  simp only [identifyDataTypeFromMaster, Collector.identifyDataTypeFromMaster, Bool.and_eq_true,
    ite_and]
  apply Meets.ite
  · apply meets_acquire
    intro sock _ fresh
    have owned := Finset.mem_insert_self sock ∅
    apply meets_access owned
    apply Meets.ite
    · apply meets_access owned
      apply Meets.ite
      · exact meets_close fresh _
      · apply Meets.ite
        · apply meets_access owned
          exact meets_close fresh _
        · apply Meets.ite
          · apply meets_access owned
            exact meets_close fresh _
          · exact meets_close fresh _
    · exact meets_close fresh _
  · exact meets_return _ ∅

theorem meets_receiveNodedataList (answers : BoundAnswers) (bufferGranted copyGranted : Bool) :
    Meets ∅ (receiveNodedataList answers bufferGranted copyGranted) (returnsNew .block
      (Wire.Member.receiveNodedataList bufferGranted copyGranted answers.received) ∅) := by
  unfold receiveNodedataList Wire.Member.receiveNodedataList BoundAnswers.received
  split
  · apply meets_acquire
    intro recvBuf _ bufFresh
    cases answers.socket with
    | false =>
        apply meets_release_insert bufFresh
        exact meets_returnNone _ ∅
    | true =>
        rw [if_pos rfl, Bool.true_and]
        apply meets_acquire
        intro sock _ sockFresh
        have closeBoth : Meets (insert sock (insert recvBuf ∅))
            (do release sock; release recvBuf; return none)
            (returnsNew Kind.block (none : Option (NodedataList UInt32)) ∅) := by
          apply meets_release_insert sockFresh
          apply meets_release_insert bufFresh
          exact meets_returnNone _ ∅
        apply meets_access (by simp)
        cases answers.bind with
        | false => exact closeBoth
        | true =>
            rw [if_pos rfl, if_pos rfl]
            apply meets_access (by simp)
            apply meets_access (by simp)
            cases answers.reception.received with
            | none => exact closeBoth
            | some datagram =>
                simp only []
                split
                · exact closeBoth
                · split
                  · exact closeBoth
                  · split
                    · apply meets_acquire
                      intro list isBlock listFresh
                      apply meets_access (by simp)
                      apply meets_access (by simp)
                      split
                      · apply meets_release_older sockFresh listFresh
                        apply meets_release_older bufFresh (by simp_all)
                        apply meets_release_insert (Finset.notMem_empty list)
                        exact meets_returnNone _ ∅
                      · apply meets_release_older sockFresh listFresh
                        apply meets_release_older bufFresh (by simp_all)
                        exact meets_pure ⟨rfl, isBlock, Finset.notMem_empty list, rfl⟩
                    · exact closeBoth
  · exact meets_returnNone _ ∅

theorem meets_updateFiles (round : MemberRound) (nodes : List (Nodedata UInt32))
    (state : MemberState) {receivedList : Item} (fresh : receivedList ∉ (∅ : Finset Item)) :
    Meets (insert receivedList ∅) (updateFiles receivedList round nodes state)
      (returns (Collector.updateFiles round nodes state) ∅) := by
  have owned := Finset.mem_insert_self receivedList ∅
  unfold updateFiles Collector.updateFiles Files.updateNodeinfo Files.updateHostfile
  apply meets_access owned
  apply (meets_updateFile _ _ _ _).call
  rcases Files.updateFile Files.nodeinfoLine round.nodeinfoIo nodes state.nodeinfo with
    ⟨code, nodeinfo⟩
  simp only [Status.check]
  split
  · exact meets_close fresh _
  · apply meets_access owned
    apply (meets_updateFile _ _ _ _).call
    simp only [Status.andThen]
    rcases Files.updateFile Files.hostfileLine round.hostfileIo nodes state.hostfile with
      ⟨code, hostfile⟩
    split
    · exact meets_close fresh _
    · exact meets_close fresh _

/-- The rounds that leave the block of a database behind. -/
def receivesDatabase (round : MemberRound) : Bool :=
  Collector.identifyDataTypeFromMaster round.control == nodeinfoDatabaseType &&
    (Wire.receiveDbOnSocketImpl round.bufferGranted round.data.received).isSome

/-- A round does what its first model does; what it has left are lost blocks. -/
theorem meets_memberRound (round : MemberRound) (state : MemberState) :
    Meets ∅ (memberRound round state) fun status left =>
      status = Collector.memberRound round state ∧
        Blocks (if receivesDatabase round then 1 else 0) left := by
  have nothingLost {status : Status MemberExit MemberState}
      (value_eq : status = Collector.memberRound round state)
      (noDatabase : receivesDatabase round = false) :
      status = Collector.memberRound round state ∧
        Blocks (if receivesDatabase round then 1 else 0) ∅ := by
    refine ⟨value_eq, ?_, by simp⟩
    simp [noDatabase]
  have different : nodeinfoDatabaseType ≠ nodedataListType := by decide
  unfold memberRound
  apply (meets_identifyDataTypeFromMaster round.control).call
  split
  · next isList =>
      have noDatabase : receivesDatabase round = false := by
        simp [receivesDatabase, isList, nodedataListType, nodeinfoDatabaseType]
      apply (meets_receiveNodedataList round.data _ _).bind
      rintro (_ | ⟨receivedList, list⟩) left received
      · rcases received with ⟨nothing, rfl⟩
        apply meets_pure
        apply nothingLost _ noDatabase
        simp [Collector.memberRound, isList, nothing]
      · rcases received with ⟨returned, -, fresh, rfl⟩
        apply (meets_updateFiles round list.entries state fresh).imp
        rintro _ _ ⟨rfl, rfl⟩
        apply nothingLost _ noDatabase
        simp [Collector.memberRound, isList, returned]
  · next notList =>
      split
      · next isDatabase =>
          apply (meets_receiveNodeinfoDatabaseBound round.data round.bufferGranted).bind
          rintro (_ | ⟨db, contents⟩) left received
          · rcases received with ⟨nothing, rfl⟩
            apply meets_pure
            apply nothingLost
            · simp [Collector.memberRound, isDatabase, different, nothing]
            · simp [receivesDatabase, nothing]
          · rcases received with ⟨returned, isBlock, fresh, rfl⟩
            apply meets_access (Finset.mem_insert_self db ∅)
            apply meets_pure
            refine ⟨?_, ?_, by simpa using isBlock⟩
            · simp [Collector.memberRound, isDatabase, different, returned]
            · simp [receivesDatabase, isDatabase, returned]
      · next notDatabase =>
          apply meets_pure
          apply nothingLost
          · simp [Collector.memberRound, notList, notDatabase]
          · simp [receivesDatabase, notDatabase]

/-! ## The procedure -/

/-- What the procedure meets before its loop. -/
structure MemberStart where
  join : Exchange
  send : SendAnswers

/-- Where the procedure is: it returned before its loop, or it has come to the loop. -/
inductive MemberOutcome where
  | ended (code : ℤ)
  | looped (status : Status MemberExit MemberState)

def runMemberNodeProcedure (long : LongType) (start : MemberStart) (rounds : List MemberRound)
    (state : MemberState) : Program MemberOutcome := do
  let recvLen ← requestJoinCluster start.join
  if recvLen = isTimeout.toInt then return .ended isTimeout.toInt
  else if recvLen = -1 then return .ended (-1)
  else
    let sent ← sendMyNodedata long start.send
    if sent.code < 0 then return .ended (-1)
    else
      let status ← rounds.foldlM (Status.advance memberRound) (.waiting state)
      return .looped status

/-- The outcome, from the results of the functions before the loop and from that of the loop. -/
def memberOutcome (join : ℤ) (sent : SentNodedata) (status : Status MemberExit MemberState) :
    MemberOutcome :=
  if join = isTimeout.toInt then .ended isTimeout.toInt
  else if join = -1 then .ended (-1)
  else if sent.code < 0 then .ended (-1)
  else .looped status

/-- The databases that a procedure received before it came to an outcome. -/
def MemberOutcome.databases (rounds : List MemberRound) : MemberOutcome → ℕ
  | .ended _ => 0
  | .looped _ => rounds.countP receivesDatabase

theorem meets_memberLoop {state : MemberState} {rounds : List MemberRound}
    {status : Status MemberExit MemberState}
    (ran : (memberProcedure state).run rounds = some status) :
    Meets ∅ (rounds.foldlM (Status.advance memberRound) (.waiting state)) fun last left =>
      last = status ∧ Blocks (rounds.countP receivesDatabase) left := by
  have unmapped : rounds.map id = rounds := List.map_id rounds
  have loop := @meets_foldlM Kind _ _ _ _ _ (memberProcedure state)
    (fun _ round => if receivesDatabase round then 1 else 0) (Status.advance memberRound) id id
    (fun _ mine => mine = ∅) Kind.block ?_ rounds (.waiting state) status ∅ rfl
    (by rw [unmapped]; exact ran)
  · apply loop.imp
    rintro _ _ ⟨rfl, _, gone, rfl, -, rfl, gone_card, gone_kind⟩
    rw [Finset.empty_union]
    have counted := @TransitionSystem.total_eq_countP _ _ _ receivesDatabase _ _ _ ran
    rw [unmapped] at gone_card
    exact ⟨rfl, gone_card.trans counted, gone_kind⟩
  · rintro status round next _ rfl stepped
    cases status with
    | returned exit state => contradiction
    | waiting state =>
        obtain rfl : Collector.memberRound round state = next := Option.some.inj stepped
        apply (meets_memberRound round state).imp
        rintro _ left ⟨rfl, blocks⟩
        exact ⟨rfl, ∅, left, by simp, by simp, rfl, blocks.card_eq, blocks.isBlock⟩

theorem meets_runMemberNodeProcedure {long : LongType} {start : MemberStart} {sent : SentNodedata}
    {state : MemberState} {rounds : List MemberRound} {status : Status MemberExit MemberState}
    (returned : Collector.sendMyNodedata long start.send = some sent)
    (ran : (memberProcedure state).run rounds = some status) :
    Meets ∅ (runMemberNodeProcedure long start rounds state) fun outcome left =>
      outcome = memberOutcome (joinCode start.join) sent status ∧
        Blocks (outcome.databases rounds) left := by
  have ended (code : ℤ) : Meets ∅ (return .ended code : Program MemberOutcome)
      fun outcome left => outcome = .ended code ∧ Blocks (outcome.databases rounds) left := by
    apply meets_pure
    exact ⟨rfl, rfl, by simp⟩
  apply (meets_requestJoinCluster start.join).call
  unfold memberOutcome
  split
  · exact ended _
  · split
    · exact ended _
    · apply (meets_sendMyNodedata returned).call
      split
      · exact ended _
      · apply (meets_memberLoop ran).bind
        rintro _ left ⟨rfl, blocks⟩
        exact meets_pure ⟨rfl, blocks⟩

/--
A member never uses or gives back anything it does not hold, and between two rounds it
holds no socket and no file. Each database it has received is still allocated.
-/
theorem member_holds (long : LongType) (start : MemberStart) (sent : SentNodedata)
    (state : MemberState) (rounds : List MemberRound) (status : Status MemberExit MemberState)
    (returned : Collector.sendMyNodedata long start.send = some sent)
    (ran : (memberProcedure state).run rounds = some status) :
    ∃ outcome holdings,
      runMemberNodeProcedure long start rounds state (Holdings.none Kind) =
        some (outcome, holdings) ∧
      outcome = memberOutcome (joinCode start.join) sent status ∧
      Blocks (outcome.databases rounds) holdings.held :=
  (meets_runMemberNodeProcedure returned ran).run

/-- A member whose master answers at once, and whose whole nodedata is sent. -/
def welcomedStart : MemberStart where
  join := .local (.datagram ⟨welcomeNodeMsg, by decide⟩)
  send := { Collector.shortAnswers with send := some nodedataSize }

/-- The master announces a database, and sends one without elements. -/
def databaseSample : MemberRound where
  control := ⟨true, true, .datagram ⟨readySendDbMsg, by decide⟩⟩
  data := ⟨true, true, .datagram ⟨List.replicate nodeinfoDatabaseSize 0, by decide⟩⟩
  bufferGranted := true
  copyGranted := true
  nodeinfoIo := Files.allGranted
  hostfileIo := Files.allGranted

theorem member_holds_databaseSample : ∃ sent status outcome holdings,
    Collector.sendMyNodedata Collector.long64 welcomedStart.send = some sent ∧
    runMemberNodeProcedure Collector.long64 welcomedStart [databaseSample, databaseSample]
      ⟨⟨none, none⟩, ⟨none, none⟩⟩ (Holdings.none Kind) = some (outcome, holdings) ∧
    outcome = memberOutcome (joinCode welcomedStart.join) sent status ∧
    Blocks 2 holdings.held := by
  obtain ⟨outcome, holdings, ran, rfl, blocks⟩ := member_holds Collector.long64 welcomedStart
    ⟨0, [1, 0, 168, 192, 125, 0, 0, 0, 8, 0, 0, 0]⟩ ⟨⟨none, none⟩, ⟨none, none⟩⟩
    [databaseSample, databaseSample] (.waiting ⟨⟨none, none⟩, ⟨none, none⟩⟩) (by decide) rfl
  exact ⟨_, _, _, holdings, by decide, ran, rfl, blocks⟩

end NodeinfoSystem.Resources
