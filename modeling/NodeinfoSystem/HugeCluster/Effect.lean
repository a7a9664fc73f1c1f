import NodeinfoSystem.Collector.Transfer
import NodeinfoSystem.Exchange.Token
import NodeinfoSystem.HugeCluster.Basic

/-!
# What one step does to the data

Most steps of the exchange leave the data alone, send nothing to a master or to the
relay's data socket, and do not change whom the relay has acknowledged. The others
are the relay's three replies, the reception of a list, and the two steps of a master
that handle data.
-/

namespace NodeinfoSystem.HugeCluster

open Foundation Exchange Wire
open Collector (listPayload fetchNodeinfoDatabase)

variable {Master : Type}

/-- The client whose list the relay waits for. -/
def acknowledged : RelayPhase Master → Option (Endpoint Master)
  | .receiving client => some client
  | _ => none

/-- What a step that does not touch the data leaves as it is. -/
structure Quiet (before after : State Master) : Prop where
  packets : ∀ packet ∈ after.net.packets,
    packet ∈ before.net.packets ∨ packet.destination = .relayCtrl
  acknowledged_eq : acknowledged after.relay = acknowledged before.relay
  networkId_eq : after.networkId = before.networkId

theorem Quiet.of_fewer {before after : State Master}
    (fewer : after.net.packets ≤ before.net.packets)
    (acknowledged_eq : acknowledged after.relay = acknowledged before.relay)
    (networkId_eq : after.networkId = before.networkId) : Quiet before after where
  packets _ packet_mem := Or.inl (Multiset.mem_of_le fewer packet_mem)
  acknowledged_eq := acknowledged_eq
  networkId_eq := networkId_eq

/-- What a step does, by what it does to the data. -/
inductive Effect [DecidableEq Master] (state : State Master) (data : Data Master)
    (input : Input) : Action Master → State Master → Data Master → Prop
  | quiet {action : Action Master} {next : State Master} (quiet : Quiet state next) :
      Effect state data input action next data
  | joined {client : Endpoint Master} (relay_eq : state.relay = .replying client .join) :
      Effect state data input .relayReply
        { state with
          net := state.net.send ⟨.relayCtrl, client, .networkId state.networkId⟩
          networkId := state.networkId + 1
          relay := .accepting }
        ((data.complete (requestRound client .join)).reply client (.networkId state.networkId))
  | acknowledged {client : Endpoint Master} (relay_eq : state.relay = .replying client .ready) :
      Effect state data input .relayReply
        { state with
          net := state.net.send ⟨.relayCtrl, client, .readyRecv⟩
          relay := .receiving client }
        (data.reply client .readyRecv)
  | answered {client : Endpoint Master} (relay_eq : state.relay = .replying client .fetch) :
      Effect state data input .relayReply
        { state with
          net := state.net.send ⟨.relayCtrl, client, .database⟩
          relay := .accepting }
        (data.replyFetch client)
  | received {client : Endpoint Master} {packet : Packet (Endpoint Master) (Message Master)}
      {net : Network (Endpoint Master) (Message Master)} {request : Request Master}
      {datagram : Datagram} {processed : Data Master}
      (relay_eq : state.relay = .receiving client)
      (received : state.net.receive .relayData = some (packet, net))
      (payload_eq : packet.payload = .list request)
      (sent : data.sent.lookup (.client request) = some datagram)
      (ran : data.processList client datagram input.os = some processed) :
      Effect state data input .relayReceive
        { state with
          net := net
          relay := .accepting
          consumed := (client, packet.payload) :: state.consumed }
        processed
  | stored {master : Master} {number : ℕ} {answer : Answer} {db : NodeinfoDatabase}
      {next : State Master} (quiet : Quiet state next)
      (phase_eq : (state.masters master).phase = .waiting .fetch number)
      (found : data.answers ⟨master, number⟩ = some answer)
      (returned : fetchNodeinfoDatabase true (.local (.datagram answer.datagram))
        ((data.nodeinfoDb master).map Copy.db) = (0, some db)) :
      Effect state data input (.masterReceive master) next { data with
        nodeinfoDb := Function.update data.nodeinfoDb master
          (some ⟨db, number, answer.position⟩) }
  | sent {master : Master} {number : ℕ} {datagram : Datagram}
      (phase_eq : (state.masters master).phase = .holding number)
      (payload_eq : listPayload input.list = some datagram) :
      Effect state data input (.masterSendList master)
        ((state.setNet (state.net.send
          ⟨.data ⟨master, number⟩, .relayData, .list ⟨master, number⟩⟩)).setMaster master
            { state.masters master with phase := .updating })
        { data with sent := data.sent ++ [(waitingSocket master number, datagram)] }

theorem fetchNodeinfoDatabase_stored {datagram : Datagram} {stored : Option NodeinfoDatabase}
    (success : ¬(fetchNodeinfoDatabase true (.local (.datagram datagram)) stored).1 < 0) :
    ∃ db, fetchNodeinfoDatabase true (.local (.datagram datagram)) stored = (0, some db) := by
  cases returned : receiveDbOnSocketImpl true (some datagram) with
  | none => simp [fetchNodeinfoDatabase, Collector.Exchange.local, Reception.received,
      returned] at success
  | some db => exact ⟨db, Collector.fetchNodeinfoDatabase_datagram returned⟩

/-! ## What the relay's data steps leave alone -/

/-- A list round is recorded; what the masters have sent and stored stays. -/
structure Processed (round : Relay.Round (Endpoint Master)) (before after : Data Master) :
    Prop where
  rounds_eq : after.rounds = before.rounds ++ [round]
  sent_eq : after.sent = before.sent
  replies_eq : after.replies = before.replies
  answers_eq : after.answers = before.answers
  nodeinfoDb_eq : after.nodeinfoDb = before.nodeinfoDb

theorem processed_of_processList {data after : Data Master} {client : Endpoint Master}
    {datagram : Datagram} {os : Database.Os}
    (ran : data.processList client datagram os = some after) :
    Processed (listRound client datagram os) data after := by
  unfold Data.processList at ran
  split at ran
  · simp only [Option.some.injEq] at ran
    exact ran ▸ ⟨rfl, rfl, rfl, rfl, rfl⟩
  · split at ran
    · contradiction
    · simp only [Option.some.injEq] at ran
      exact ran ▸ ⟨rfl, rfl, rfl, rfl, rfl⟩

variable [DecidableEq Master]

/-- A request for the database is a round, whether its reply can be sent or not. -/
theorem replyFetch_frame (client : Endpoint Master) (data : Data Master) :
    (data.replyFetch client).rounds = data.rounds ++ [requestRound client .fetch] ∧
      (data.replyFetch client).sent = data.sent ∧
      data.replies <+: (data.replyFetch client).replies := by
  unfold Data.replyFetch
  split
  · exact ⟨rfl, rfl, List.prefix_append _ _⟩
  · exact ⟨rfl, rfl, List.prefix_refl _⟩

/-- Rounds, lists and replies are only ever added. -/
structure Extends (before after : Data Master) : Prop where
  rounds : before.rounds <+: after.rounds
  sent : before.sent <+: after.sent
  replies : before.replies <+: after.replies

theorem Effect.extends_ {state next : State Master} {data after : Data Master}
    {action : Action Master} {input : Input}
    (effect : Effect state data input action next after) : Extends data after := by
  cases effect with
  | quiet | stored => exact ⟨List.prefix_refl _, List.prefix_refl _, List.prefix_refl _⟩
  | joined => exact ⟨List.prefix_append _ _, List.prefix_refl _, List.prefix_append _ _⟩
  | acknowledged => exact ⟨List.prefix_refl _, List.prefix_refl _, List.prefix_append _ _⟩
  | answered =>
      rcases replyFetch_frame _ data with ⟨rounds_eq, sent_eq, replies⟩
      refine ⟨?_, ?_, replies⟩
      · rw [rounds_eq]
        exact List.prefix_append _ _
      · rw [sent_eq]
  | received _ _ _ _ ran =>
      have frame := processed_of_processList ran
      refine ⟨?_, ?_, ?_⟩
      · rw [frame.rounds_eq]
        exact List.prefix_append _ _
      · rw [frame.sent_eq]
      · rw [frame.replies_eq]
  | sent => exact ⟨List.prefix_refl _, List.prefix_append _ _, List.prefix_refl _⟩

/-- The messages to the data socket are lists. -/
theorem exists_list_of_receive {state : State Master}
    {packet : Packet (Endpoint Master) (Message Master)}
    {net : Network (Endpoint Master) (Message Master)} (wellFormed : WellFormed state)
    (received : state.net.receive .relayData = some (packet, net)) :
    ∃ request, packet.payload = .list request := by
  rcases Network.receive_effect received with ⟨-, atData, -, -⟩
  cases wellFormed.traffic packet (Network.mem_packets_of_receive received) with
  | request => contradiction
  | reply => contradiction
  | list request => exact ⟨request, rfl⟩

theorem effect_masterReceive {state : State Master} {data after : Data Master} {input : Input}
    {master : Master} {kind : Kind} {number : ℕ}
    {packet : Packet (Endpoint Master) (Message Master)}
    {net : Network (Endpoint Master) (Message Master)}
    (phase_eq : (state.masters master).phase = .waiting kind number)
    (received : state.net.receive (waitingSocket master number) = some (packet, net))
    (updated : data.masterReceive state master = some after) :
    Effect state data input (.masterReceive master)
      ((state.setNet (net.close (waitingSocket master number))).setMaster master
        ((state.masters master).afterReply number kind packet.payload)) after := by
  have quiet : Quiet state ((state.setNet (net.close (waitingSocket master number))).setMaster
      master ((state.masters master).afterReply number kind packet.payload)) :=
    .of_fewer (Network.packets_close_le_of_receive received) rfl rfl
  simp only [Data.masterReceive, phase_eq] at updated
  split at updated
  · next waiting =>
      simp only [MasterPhase.waiting.injEq] at waiting
      rcases waiting with ⟨rfl, rfl⟩
      split at updated
      · split at updated
        · contradiction
        · next answer found =>
            split at updated
            · contradiction
            · next success =>
                rcases fetchNodeinfoDatabase_stored success with ⟨db, returned⟩
                simp only [returned, Option.map_some, Option.some.injEq] at updated
                exact updated ▸ .stored quiet phase_eq found returned
      · simp only [Option.some.injEq] at updated
        exact updated ▸ .quiet quiet
  · simp only [Option.some.injEq] at updated
    exact updated ▸ .quiet quiet

theorem effect_relayReceive {state : State Master} {data after : Data Master} {input : Input}
    {client : Endpoint Master} {packet : Packet (Endpoint Master) (Message Master)}
    {net : Network (Endpoint Master) (Message Master)} (wellFormed : WellFormed state)
    (relay_eq : state.relay = .receiving client)
    (received : state.net.receive .relayData = some (packet, net))
    (updated : data.relayReceive state input.os = some after) :
    Effect state data input .relayReceive
      { state with
        net := net
        relay := .accepting
        consumed := (client, packet.payload) :: state.consumed } after := by
  rcases exists_list_of_receive wellFormed received with ⟨request, payload_eq⟩
  rcases packet with ⟨source, destination, payload⟩
  simp only at payload_eq
  subst payload
  simp only [Data.relayReceive, relay_eq, received] at updated
  split at updated
  · contradiction
  · next datagram sent => exact .received relay_eq received rfl sent updated

theorem effect_of_update {state next : State Master} {data after : Data Master}
    {action : Action Master} {input : Input} (wellFormed : WellFormed state)
    (stepped : Exchange.Step state action next)
    (updated : data.update state action input = some after) :
    Effect state data input action next after := by
  simp only [Data.update] at updated
  cases stepped with
  | deliver delivered =>
      simp only [Option.some.injEq] at updated
      exact updated ▸ .quiet (.of_fewer (Network.packets_deliver_le delivered) rfl rfl)
  | lose lost =>
      simp only [Option.some.injEq] at updated
      exact updated ▸ .quiet (.of_fewer (Network.packets_lose_le lost) rfl rfl)
  | bindCtrl relay_eq =>
      simp only [Option.some.injEq] at updated
      exact updated ▸ .quiet (.of_fewer (le_refl _) (by rw [relay_eq]; rfl) rfl)
  | bindData relay_eq =>
      simp only [Option.some.injEq] at updated
      exact updated ▸ .quiet (.of_fewer (le_refl _) rfl rfl)
  | accept relay_eq received kind_eq =>
      simp only [Option.some.injEq] at updated
      exact updated ▸
        .quiet (.of_fewer (Network.packets_receive_le received) (by rw [relay_eq]; rfl) rfl)
  | reject relay_eq received =>
      simp only [Option.some.injEq] at updated
      exact updated ▸ .quiet (.of_fewer (Network.packets_receive_le received) rfl rfl)
  | replyJoin relay_eq =>
      simp only [Data.relayReply, relay_eq, Option.some.injEq] at updated
      exact updated ▸ .joined relay_eq
  | replyReady relay_eq =>
      simp only [Data.relayReply, relay_eq, Option.some.injEq] at updated
      exact updated ▸ .acknowledged relay_eq
  | replyFetch relay_eq =>
      simp only [Data.relayReply, relay_eq, Option.some.injEq] at updated
      exact updated ▸ .answered relay_eq
  | consume relay_eq received => exact effect_relayReceive wellFormed relay_eq received updated
  | request current_eq may client_eq =>
      simp only [Option.some.injEq] at updated
      refine updated ▸ .quiet ⟨?_, rfl, rfl⟩
      intro packet packet_mem
      rw [setMaster_net, setNet_net, Network.packets_send, Network.packets_bind,
        Multiset.mem_cons] at packet_mem
      rcases packet_mem with rfl | old
      · exact Or.inr rfl
      · exact Or.inl old
  | masterReceive phase_eq received => exact effect_masterReceive phase_eq received updated
  | masterTimeout phase_eq =>
      simp only [Option.some.injEq] at updated
      exact updated ▸ .quiet (.of_fewer (Network.packets_close_le _ _) rfl rfl)
  | masterSendList phase_eq =>
      simp only [Data.masterSendList, phase_eq] at updated
      split at updated
      · next number datagram holding payload_eq =>
          simp only [MasterPhase.holding.injEq] at holding
          simp only [Option.some.injEq] at updated
          subst number
          exact updated ▸ .sent phase_eq payload_eq
      · contradiction
      · next fits tooLong =>
          cases payload_eq : listPayload input.list with
          | none => exact absurd payload_eq (tooLong _ rfl)
          | some datagram => exact absurd payload_eq (fits _ _ rfl)
  | masterNextRound phase_eq =>
      simp only [Option.some.injEq] at updated
      exact updated ▸ .quiet (.of_fewer (le_refl _) rfl rfl)
  | masterFail phase_eq =>
      simp only [Option.some.injEq] at updated
      exact updated ▸ .quiet (.of_fewer (le_refl _) rfl rfl)

/-- The step of the exchange below a step of the huge cluster, and what is done to the data. -/
theorem effect_of_step {before after : State Master × Data Master} {action : Action Master × Input}
    (wellFormed : WellFormed before.1)
    (stepped : (system Master).step before action = some after) :
    Exchange.Step before.1 action.1 after.1 ∧
      Effect before.1 before.2 action.2 action.1 after.1 after.2 := by
  rcases TransitionSystem.superpose_step_eq_some.mp stepped with ⟨base_eq, updated⟩
  have step := Exchange.Step.of_step base_eq
  exact ⟨step, effect_of_update wellFormed step updated⟩

end NodeinfoSystem.HugeCluster
