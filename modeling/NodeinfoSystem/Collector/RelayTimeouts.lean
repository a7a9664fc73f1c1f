import NodeinfoSystem.Collector.Rounds
import NodeinfoSystem.Collector.Transfer

/-!
# A relay that does not answer in time

Everything else succeeds here: the local calls, the messages of the members and the
deliveries to them. The relay may be silent at the join, at the ready exchange of
any round, and at any request for the database. The first two are skipped. The
third comes back from the reader as a null pointer, as an error does, and ends the
procedure.
-/

namespace NodeinfoSystem.Collector

open Foundation Wire

/-- A start at which nothing fails, with a relay that assigns an id or is silent. -/
structure MasterStart.Serves (start : MasterStart) : Prop where
  granted : start.malloc.isSome = true
  valid : ValidNode start.me
  join : start.join = .local .timeout ∨ ∃ (id : Int32) (reply : Datagram), 0 < id.toInt ∧
    start.join = .local (.datagram reply) ∧ reply.bytes = encodeWord (htonl id.toUInt32)

/-- A round in which nothing fails but the relay may be silent. -/
structure Round.Serves (round : Round) : Prop where
  control : ¬acceptMemberRequest round.control < 0
  nodedata : acceptMemberRequest round.control ≠ timeoutCode →
    ValidNode (receiveNodedata round.connection)
  members : round.members.Succeeds readyRecvNodedataListMsg
  ready : round.relay.ready = .local .timeout ∨ ∃ reply : Datagram,
    round.relay.ready = .local (.datagram reply) ∧ reply.bytes = readyRecvNodedataListMsg
  relaySocket : round.relay.socket = true
  relaySendto : round.relay.sendto = true
  nodeinfoIo : round.nodeinfoIo = Files.allGranted
  hostfileIo : round.hostfileIo = Files.allGranted
  fetchGranted : round.fetchGranted = true
  fetch : round.fetch = .local .timeout ∨ ∃ (db : NodeinfoDatabase) (reply : Datagram),
    round.fetch = .local (.datagram reply) ∧ reply.bytes = encodeNodeinfoDatabase db ∧
      0 ≤ db.currentSize.toInt ∧ reply.bytes.length ≤ maxIpv4Payload
  databaseMembers : round.databaseMembers.Succeeds readyRecvDbMsg

/-- A master that waits while nothing fails. -/
structure Serving (networkId : Int32) (rounds : List Round) (state : MasterState) : Prop where
  room : HasRoomFor networkId rounds state
  fits : ∀ db, state.gNodeinfoDb = some db → (databasePayload db).isSome = true

/-- The request for the database, if the round makes one, is answered in time. -/
def Answered (networkId : Int32) (round : Round) : Prop :=
  0 < networkId.toInt → round.fetch.reply ≠ .timeout

section Steps

variable {networkId : Int32} {round : Round} {rounds : List Round} {state : MasterState}

theorem addStep_serving (serving : Serving networkId (round :: rounds) state) :
    (addStep round (acceptMemberRequest round.control) state).Satisfies
      (Serving networkId rounds) fun _ _ => False := by
  apply (addStep_satisfies serving.room).imp
  · rintro after ⟨room, after_eq⟩
    refine ⟨room, ?_⟩
    rw [after_eq]
    exact serving.fits
  · intro _ _ impossible
    exact impossible

theorem ListBlock.Holds.listPayload {count : ℕ} {block : ListBlock}
    (holds : block.Holds count networkId) : (listPayload block).isSome = true := by
  have bounded := holds.wellFormed.bounded
  have length_eq := listPayloadLen_eq holds.wellFormed.nonneg
  have maxSize_eq := holds.maxSize_eq
  have small : listPayloadLen block ≤ maxIpv4Payload := by
    simp only [maxIpv4Payload]
    omega
  rw [Collector.listPayload, dif_pos small]
  rfl

theorem distributeNodedataList_serves {count : ℕ} {block : ListBlock} (serves : round.Serves)
    (holds : block.Holds count networkId) :
    distributeNodedataList round.members round.relay block = 0 := by
  have delivered := sendNodedataListToMembers_of_succeeds serves.members holds.listPayload
  have sent : sendNodedataListToRelayServer round.relay.socket round.relay.sendto block = 0 := by
    simp [sendNodedataListToRelayServer, serves.relaySocket, serves.relaySendto, holds.listPayload]
  have nonneg := holds.wellFormed.nonneg
  have maxSize_eq := holds.maxSize_eq
  have valid : ¬(block.currentSize.toInt < 0 ∨ block.maxSize.toInt ≤ 0) := by omega
  rw [distributeNodedataList, if_neg valid, delivered, sent]
  rcases serves.ready with silent | ⟨reply, answered, bytes_eq⟩
  · rw [silent, relayRequestReady_timeout]
    simp
  · rw [answered, relayRequestReady_datagram bytes_eq]
    simp

theorem distributeListStep_serving (serves : round.Serves)
    (serving : Serving networkId rounds state) :
    (distributeListStep round state).Satisfies
      (Serving networkId rounds) fun _ _ => False := by
  rcases serving.room with ⟨block, count, lists, holds, inside⟩
  rw [distributeListStep, lists.list_eq, distributeNodedataList_serves serves holds]
  exact serving

theorem nodeinfoStep_serving (serves : round.Serves) (serving : Serving networkId rounds state) :
    (nodeinfoStep round state).Satisfies
      (Serving networkId rounds) fun _ _ => False := by
  rw [nodeinfoStep, serves.nodeinfoIo, Files.updateNodeinfo, Files.updateFile_allGranted]
  exact ⟨serving.room.of_master_eq rfl, serving.fits⟩

theorem hostfileStep_serving (serves : round.Serves) (serving : Serving networkId rounds state) :
    (hostfileStep round state).Satisfies
      (Serving networkId rounds) fun _ _ => False := by
  rw [hostfileStep, serves.hostfileIo, Files.updateHostfile, Files.updateFile_allGranted]
  exact ⟨serving.room.of_master_eq rfl, serving.fits⟩

theorem fetchNodeinfoDatabase_answered {db : NodeinfoDatabase} {reply : Datagram}
    {stored : Option NodeinfoDatabase} (bytes_eq : reply.bytes = encodeNodeinfoDatabase db)
    (nonneg : 0 ≤ db.currentSize.toInt) (small : reply.bytes.length ≤ maxIpv4Payload) :
    ∃ received, fetchNodeinfoDatabase true (.local (.datagram reply)) stored = (0, some received) ∧
      (databasePayload received).isSome = true := by
  rcases receiveDbOnSocketImpl_encode nonneg bytes_eq with
    ⟨received, returned, -, currentSize_eq, -⟩
  refine ⟨received, fetchNodeinfoDatabase_datagram returned, ?_⟩
  have fits : databasePayloadLen received ≤ maxIpv4Payload := by
    rw [bytes_eq, length_encodeNodeinfoDatabase] at small
    simp only [nodeinfoDatabaseSize, nodeinfoDatabaseElementSize] at small
    rw [databasePayloadLen_le_iff, currentSize_eq]
    omega
  rw [databasePayload, dif_pos fits]
  rfl

theorem fetchStep_serving (serves : round.Serves) (serving : Serving networkId rounds state) :
    (fetchStep round state).Satisfies
      (fun after => Serving networkId rounds after ∧ round.fetch.reply ≠ .timeout)
      fun _ _ => round.fetch.reply = .timeout := by
  rw [fetchStep, serves.fetchGranted]
  rcases serves.fetch with silent | ⟨db, reply, answered, bytes_eq, nonneg, small⟩
  · rw [silent, fetchNodeinfoDatabase_timeout]
    rfl
  · rcases fetchNodeinfoDatabase_answered bytes_eq nonneg small with ⟨received, fetched, fits⟩
    rw [answered, fetched]
    refine ⟨⟨serving.room.of_master_eq rfl, ?_⟩, by simp [Exchange.local]⟩
    rintro _ ⟨⟩
    exact fits

theorem distributeDatabaseStep_serving (serves : round.Serves)
    (serving : Serving networkId rounds state) :
    (distributeDatabaseStep round state).Satisfies
      (Serving networkId rounds) fun _ _ => False := by
  rw [distributeDatabaseStep,
    distributeNodeinfoDatabase_of_succeeds serves.databaseMembers serving.fits]
  exact serving

theorem Serving.networkId_eq (serving : Serving networkId rounds state) (read : ListRead) :
    (state.list round read).networkId = networkId := by
  rcases serving.room with ⟨block, count, lists, holds, -⟩
  rw [lists.list_eq, holds.networkId_eq]

theorem fetchStep_answered (serves : round.Serves) (serving : Serving networkId rounds state)
    (joined : 0 < networkId.toInt) :
    (fetchStep round state).Satisfies
      (fun after => Serving networkId rounds after ∧ Answered networkId round)
      fun _ _ => ¬Answered networkId round := by
  apply (fetchStep_serving serves serving).imp
  · rintro after ⟨serving, answered⟩
    exact ⟨serving, fun _ => answered⟩
  · intro _ _ silent answered
    exact answered joined silent

theorem fetchIfJoinedStep_answered (serves : round.Serves)
    (serving : Serving networkId rounds state) :
    (fetchIfJoinedStep round state).Satisfies
      (fun after => Serving networkId rounds after ∧ Answered networkId round)
      fun _ _ => ¬Answered networkId round := by
  unfold fetchIfJoinedStep
  split
  · next joined =>
      rw [serving.networkId_eq] at joined
      exact fetchStep_answered serves serving joined
  · next alone =>
      rw [serving.networkId_eq] at alone
      exact ⟨serving, fun joined => absurd joined alone⟩

theorem distributeDatabaseStep_answered (serves : round.Serves)
    (served : Serving networkId rounds state ∧ Answered networkId round) :
    (distributeDatabaseStep round state).Satisfies
      (fun after => Serving networkId rounds after ∧ Answered networkId round)
      fun _ _ => ¬Answered networkId round := by
  apply (distributeDatabaseStep_serving serves served.1).imp
  · intro after serving
    exact ⟨serving, served.2⟩
  · intro _ _ impossible
    contradiction

theorem masterRound_answered (serves : round.Serves)
    (serving : Serving networkId (round :: rounds) state) :
    (masterRound round state).Satisfies
      (fun after => Serving networkId rounds after ∧ Answered networkId round)
      fun _ _ => ¬Answered networkId round := by
  have waiting : Serving networkId rounds state := ⟨serving.room.tail, serving.fits⟩
  simp only [masterRound, if_neg serves.control]
  split
  · unfold timeoutRound
    split
    · next joined =>
        rw [serving.networkId_eq] at joined
        have fetched := fetchStep_answered serves waiting joined
        exact fetched.andThen fun _ => distributeDatabaseStep_answered serves
    · next alone =>
        rw [serving.networkId_eq] at alone
        exact ⟨waiting, fun joined => absurd joined alone⟩
  · next requested =>
      rw [if_pos (serves.nodedata requested)]
      have added := addStep_serving serving
      have distributed := added.andThen fun _ => distributeListStep_serving serves
      have half := distributed.andThen fun _ => nodeinfoStep_serving serves
      have updated := half.andThen fun _ => hostfileStep_serving serves
      have fetched := (updated.of_never_returns).andThen fun _ => fetchIfJoinedStep_answered serves
      exact fetched.andThen fun _ => distributeDatabaseStep_answered serves

end Steps

/-! ## Whole runs -/

theorem requestJoin_of_serves {start : MasterStart} (serves : start.Serves) :
    (start.join.reply = .timeout ∧ requestJoinHugeCluster start.join = isTimeout) ∨
      start.join.reply ≠ .timeout ∧ 0 < (requestJoinHugeCluster start.join).toInt := by
  rcases serves.join with silent | ⟨id, reply, positive, answered, bytes_eq⟩
  · rw [silent, requestJoinHugeCluster_timeout]
    exact Or.inl ⟨rfl, rfl⟩
  · rw [answered, requestJoinHugeCluster_datagram bytes_eq]
    exact Or.inr ⟨by simp [Exchange.local], positive⟩

theorem exists_masterStart {start : MasterStart} (serves : start.Serves)
    (nodeinfo hostfile : Files.File) :
    ∃ state, masterStart start nodeinfo hostfile = some state := by
  have joined : requestJoinHugeCluster start.join = isTimeout ∨
      0 ≤ (requestJoinHugeCluster start.join).toInt := by
    rcases requestJoin_of_serves serves with ⟨-, silent⟩ | ⟨-, positive⟩
    · exact Or.inl silent
    · exact Or.inr (Int.le_of_lt positive)
  rcases exists_startMaster serves.granted serves.valid joined with ⟨master, started⟩
  refine ⟨⟨master, none, nodeinfo, hostfile⟩, ?_⟩
  rw [masterStart, started, Option.map_some]

theorem serving_masterStart {start : MasterStart} {nodeinfo hostfile : Files.File}
    {state : MasterState} {rounds : List Round}
    (started : masterStart start nodeinfo hostfile = some state) (few : joinCount rounds ≤ 15) :
    Serving (requestJoinHugeCluster start.join) rounds state := by
  refine ⟨hasRoomFor_masterStart started few, ?_⟩
  rw [masterStart, Option.map_eq_some_iff] at started
  rcases started with ⟨master, -, rfl⟩
  intro db impossible
  contradiction

/-- The rounds of a run so far have been answered, and the ones to come may be silent. -/
structure RunSoFar (networkId : Int32) (rounds rest : List Round) (state : MasterState) : Prop where
  serving : Serving networkId rest state
  serves : ∀ round ∈ rest, round.Serves
  answered : ∀ round ∈ rounds, round ∈ rest ∨ Answered networkId round

theorem answered_of_waiting {networkId : Int32} {rounds : List Round} {state last : MasterState}
    (serving : Serving networkId rounds state) (serves : ∀ round ∈ rounds, round.Serves)
    (ran : (masterProcedure state).run rounds = some (.waiting last)) :
    ∀ round ∈ rounds, Answered networkId round := by
  have kept (round : Round) (rest : List Round) (state : MasterState)
      (soFar : RunSoFar networkId rounds (round :: rest) state) :
      (masterRound round state).Satisfies (RunSoFar networkId rounds rest) fun _ _ => True := by
    apply (masterRound_answered (soFar.serves round (by simp)) soFar.serving).imp
    · rintro after ⟨serving, answered⟩
      refine ⟨serving, fun other other_mem => soFar.serves other (by simp [other_mem]), ?_⟩
      intro other other_mem
      rcases soFar.answered other other_mem with isNext | done
      · rcases List.mem_cons.mp isNext with rfl | isLater
        · exact Or.inr answered
        · exact Or.inl isLater
      · exact Or.inr done
    · intro _ _ _
      trivial
  have ended := Status.loop_satisfies _ kept ran ⟨serving, serves, fun _ => Or.inl⟩
  intro round round_mem
  rcases ended.answered round round_mem with isLeft | answered
  · contradiction
  · exact answered

theorem exists_waiting_of_answered {networkId : Int32} {rounds : List Round} {state : MasterState}
    (serving : Serving networkId rounds state)
    (serves : ∀ round ∈ rounds, round.Serves ∧ Answered networkId round) :
    ∃ last, (masterProcedure state).run rounds = some (.waiting last) := by
  have kept (round : Round) (rest : List Round) (state : MasterState)
      (holds : Serving networkId (round :: rest) state ∧
        ∀ other ∈ round :: rest, other.Serves ∧ Answered networkId other) :
      (masterRound round state).Satisfies
        (fun after => Serving networkId rest after ∧
          ∀ other ∈ rest, other.Serves ∧ Answered networkId other)
        fun _ _ => False := by
    rcases holds.2 round (by simp) with ⟨roundServes, answered⟩
    apply (masterRound_answered roundServes holds.1).imp
    · rintro after ⟨serving, -⟩
      exact ⟨serving, fun other other_mem => holds.2 other (by simp [other_mem])⟩
    · intro _ _ silent
      exact silent answered
  exact Status.exists_waiting (fun rest state => Serving networkId rest state ∧
    ∀ round ∈ rest, round.Serves ∧ Answered networkId round) kept ⟨serving, serves⟩

/--
With at most fifteen joins, a master that meets no other failure goes on through
exactly the runs in which the join was not answered, or every request for the
database is.
-/
theorem waits_iff_answered (start : MasterStart) (nodeinfo hostfile : Files.File)
    (startServes : start.Serves) :
    ∃ state, masterStart start nodeinfo hostfile = some state ∧
      ∀ rounds : List Round, (∀ round ∈ rounds, round.Serves) → joinCount rounds ≤ 15 →
        ((∃ last, (masterProcedure state).run rounds = some (.waiting last)) ↔
          start.join.reply = .timeout ∨ ∀ round ∈ rounds, round.fetch.reply ≠ .timeout) := by
  rcases exists_masterStart startServes nodeinfo hostfile with ⟨state, started⟩
  refine ⟨state, started, ?_⟩
  intro rounds serves few
  have serving := serving_masterStart started few
  have all_iff : (∀ round ∈ rounds, Answered (requestJoinHugeCluster start.join) round) ↔
      start.join.reply = .timeout ∨ ∀ round ∈ rounds, round.fetch.reply ≠ .timeout := by
    rcases requestJoin_of_serves startServes with ⟨silent, id_eq⟩ | ⟨answered, positive⟩
    · have unanswered (round : Round) : Answered (requestJoinHugeCluster start.join) round := by
        intro joined
        rw [id_eq] at joined
        contradiction
      simp [silent, unanswered]
    · simp [Answered, positive, answered]
  rw [← all_iff]
  constructor
  · rintro ⟨last, ran⟩
    exact answered_of_waiting serving serves ran
  · intro answered
    exact exists_waiting_of_answered serving fun round round_mem =>
      ⟨serves round round_mem, answered round round_mem⟩

/-! ## A short run -/

/-- A node that acknowledges the first control message. -/
def acknowledging (ack : Datagram) (ip : UInt32) : Delivery where
  attempts _ := ⟨true, ip, .datagram ack⟩
  sendto := true

theorem acknowledging_succeeds {ack : List UInt8} {reply : Datagram} (bytes_eq : reply.bytes = ack)
    (fits : ack.length ≤ 127) (nonempty : 0 < ack.length) (text : cString ack = ack) (ip : UInt32) :
    (acknowledging reply ip).Succeeds ack ip := by
  have received := wrappedRecvfrom_datagram bytes_eq fits
  refine ⟨⟨0, by decide, ?_, fun _ _ => rfl⟩, rfl⟩
  simp [Attempt.acknowledges, acknowledging, received, text, nonempty]

def listAck : Datagram where
  bytes := readyRecvNodedataListMsg
  fits := by decide

def dbAck : Datagram where
  bytes := readyRecvDbMsg
  fits := by decide

def helloMessage : Datagram where
  bytes := helloMasterMsg
  fits := by decide

/-- The relay's reply to a join: the network id 1. -/
def idReply : Datagram where
  bytes := encodeWord (htonl 1)
  fits := by decide

def emptyDatabase : NodeinfoDatabase where
  maxSize := 0
  currentSize := 0
  elements := []
  inBounds := by simp

def databaseReply : Datagram where
  bytes := encodeNodeinfoDatabase emptyDatabase
  fits := by decide

/-- A master whose join is answered. -/
def joinedStart : MasterStart where
  malloc := some zeros
  me := ⟨1, 0, 4⟩
  join := .local (.datagram idReply)

theorem joinedStart_serves : joinedStart.Serves where
  granted := rfl
  valid := by decide
  join := Or.inr ⟨1, idReply, by decide, rfl, rfl⟩

/-- A round in which nothing but the request for the database can fail. -/
def sampleRound (reception : Reception) (fetch : Reception) : Round where
  control := ⟨true, true, reception, fun _ => true⟩
  connection := ⟨true, true, true, true, fun _ => encodeNodedata collectorAddress ⟨2, 10, 8⟩⟩
  add := ⟨some zeros, emptyList zeros⟩
  stale _ := emptyList zeros
  members := ⟨true, fun _ => 1, fun _ => acknowledging listAck⟩
  relay := ⟨.local (.datagram listAck), true, true⟩
  nodeinfoIo := Files.allGranted
  hostfileIo := Files.allGranted
  fetchGranted := true
  fetch := .local fetch
  databaseMembers := ⟨true, fun _ => 1, fun _ => acknowledging dbAck⟩

theorem sampleRound_serves {reception fetch : Reception}
    (asks : reception = .timeout ∨ reception = .datagram helloMessage)
    (answers : fetch = .timeout ∨ fetch = .datagram databaseReply) :
    (sampleRound reception fetch).Serves where
  control := by
    rcases asks with rfl | rfl
    · change ¬acceptMemberRequest ⟨true, true, .timeout, fun _ => true⟩ < 0
      decide
    · change ¬acceptMemberRequest ⟨true, true, .datagram helloMessage, fun _ => true⟩ < 0
      decide
  nodedata _ := by
    change ValidNode (receiveNodedata
      ⟨true, true, true, true, fun _ => encodeNodedata collectorAddress ⟨2, 10, 8⟩⟩)
    decide
  members := ⟨rfl, fun _ => acknowledging_succeeds rfl (by decide) (by decide) (by decide)⟩
  ready := Or.inr ⟨listAck, rfl, rfl⟩
  relaySocket := rfl
  relaySendto := rfl
  nodeinfoIo := rfl
  hostfileIo := rfl
  fetchGranted := rfl
  fetch := by
    rcases answers with rfl | rfl
    · exact Or.inl rfl
    · exact Or.inr ⟨emptyDatabase, databaseReply, rfl, rfl, by decide, by decide⟩
  databaseMembers := ⟨rfl, fun _ => acknowledging_succeeds rfl (by decide) (by decide) (by decide)⟩

/-- A node joins, and the next request for the database is not answered. -/
def silentRun : List Round :=
  [sampleRound (.datagram helloMessage) (.datagram databaseReply), sampleRound .timeout .timeout]

theorem silentRun_serves : ∀ round ∈ silentRun, round.Serves := by
  intro round round_mem
  rcases List.mem_pair.mp round_mem with rfl | rfl
  · exact sampleRound_serves (Or.inr rfl) (Or.inr rfl)
  · exact sampleRound_serves (Or.inl rfl) (Or.inl rfl)

theorem waits_iff_answered_silentRun : ∃ state,
    masterStart joinedStart ⟨none, none⟩ ⟨none, none⟩ = some state ∧
      ((∃ last, (masterProcedure state).run silentRun = some (.waiting last)) ↔
        joinedStart.join.reply = .timeout ∨
          ∀ round ∈ silentRun, round.fetch.reply ≠ .timeout) := by
  rcases waits_iff_answered joinedStart ⟨none, none⟩ ⟨none, none⟩ joinedStart_serves with
    ⟨state, started, waits_iff⟩
  exact ⟨state, started, waits_iff silentRun silentRun_serves (by decide)⟩

/-- The silence of the relay ends the procedure of a master that has joined. -/
theorem not_forall_waits : ¬∀ (start : MasterStart) (nodeinfo hostfile : Files.File)
    (state : MasterState) (rounds : List Round), start.Serves →
      masterStart start nodeinfo hostfile = some state → (∀ round ∈ rounds, round.Serves) →
        ∃ last, (masterProcedure state).run rounds = some (.waiting last) := by
  intro always
  rcases exists_masterStart joinedStart_serves ⟨none, none⟩ ⟨none, none⟩ with ⟨state, started⟩
  rcases always joinedStart ⟨none, none⟩ ⟨none, none⟩ state silentRun joinedStart_serves started
    silentRun_serves with ⟨last, ran⟩
  have serving : Serving (requestJoinHugeCluster joinedStart.join) silentRun state :=
    serving_masterStart started (by decide)
  have answered := answered_of_waiting serving silentRun_serves ran
    (sampleRound .timeout .timeout) (by simp [silentRun])
  exact answered (by decide) rfl

end NodeinfoSystem.Collector
