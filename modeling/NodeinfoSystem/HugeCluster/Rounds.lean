import NodeinfoSystem.HugeCluster.Effect
import NodeinfoSystem.Relay.Effect

/-!
# The relay's part is a sequence of rounds

Requests, replies, lists and losses interleave in the exchange. What they make the
relay do is a run of its main loop, round by round: a round is complete when its
reply has been sent, or, for a ready request, when the list has been processed. In
between only the acknowledgement has been sent. Rounds in which a call of the relay fails
outside `update_nodeinfo_database` are runs of the loop, but not of the system.
-/

namespace NodeinfoSystem.HugeCluster

open Foundation Exchange Wire
open Collector (databasePayload)

variable {Master : Type}

/-- What `accept_request` compares. -/
theorem requestText_requestDatagram (kind : Kind) :
    Relay.requestText (requestDatagram kind) = requestMsg kind := by
  cases kind <;> decide

/-! ## One round -/

section Rounds

variable (client : Endpoint Master) (relay : Relay.State (Endpoint Master))

theorem iterate_join : Relay.iterate (requestRound client .join) relay =
    some { { relay with ctrlInited := true }.reply client (.networkId relay.networkId) with
      networkId := relay.networkId + 1 } := by
  simp only [Relay.iterate, Relay.acceptRequest, requestRound, Bool.or_true, if_true,
    requestText_requestDatagram, requestMsg]

theorem acceptRequest_ready {round : Relay.Round (Endpoint Master)}
    (opens : round.ctrlOpens = true) (request_eq : round.request =
      some (client, requestDatagram .ready)) (replySent : round.replySent = true) :
    Relay.acceptRequest round relay =
      (.recvNodedataList, { relay with ctrlInited := true }.reply client .readyRecv) := by
  have notHello : readySendNodedataListMsg ≠ helloRelayServerMsg := by decide
  simp only [Relay.acceptRequest, opens, Bool.or_true, if_true, request_eq,
    requestText_requestDatagram, requestMsg, if_neg notHello, replySent]

/-- The relay once the client's ready request has been acknowledged and the list received. -/
def listening : Relay.State (Endpoint Master) :=
  { { relay with ctrlInited := true }.reply client .readyRecv with listInited := true }

theorem iterate_list (datagram : Datagram) (os : Database.Os) :
    Relay.iterate (listRound client datagram os) relay =
      match Wire.Relay.receiveNodedataList true (some datagram) with
      | none => some (listening client relay)
      | some list =>
          match Database.updateNodeinfoDatabase os list relay.manager with
          | none => none
          | some (db, manager) =>
              some { listening client relay with db := db, manager := manager } := by
  have accepted : Relay.acceptRequest (listRound client datagram os) relay =
      (.recvNodedataList, { relay with ctrlInited := true }.reply client .readyRecv) :=
    acceptRequest_ready client relay rfl rfl rfl
  have received (state : Relay.State (Endpoint Master)) :
      Relay.receiveNodedataList (listRound client datagram os) state =
        (Wire.Relay.receiveNodedataList true (some datagram),
          { state with listInited := true }) := by
    simp only [Relay.receiveNodedataList, listRound, requestRound, Bool.or_true, if_true]
  simp only [Relay.iterate, accepted, received]
  cases Wire.Relay.receiveNodedataList true (some datagram) with
  | none => rfl
  | some list => rfl

theorem iterate_fetch : Relay.iterate (requestRound client .fetch) relay =
    match databasePayload (Relay.served relay.db) with
    | none => some { relay with ctrlInited := true, lastClient := some client }
    | some datagram =>
        some ({ relay with ctrlInited := true, lastClient := some client }.reply client
          (.database datagram)) := by
  have notHello : giveMeDbMsg ≠ helloRelayServerMsg := by decide
  have notReady : giveMeDbMsg ≠ readySendNodedataListMsg := by decide
  simp only [Relay.iterate, Relay.acceptRequest, requestRound, Bool.or_true, if_true,
    requestText_requestDatagram, requestMsg, if_neg notHello, if_neg notReady,
    Relay.sendNodeinfoDatabase]
  cases databasePayload (Relay.served relay.db) with
  | none => rfl
  | some datagram => rfl

end Rounds

/-! ## The simulation -/

/-- The replies of the round that is under way. -/
def pending (relay : RelayPhase Master) : List (Endpoint Master × Relay.Reply) :=
  (acknowledged relay).toList.map fun client => (client, .readyRecv)

/-- The relay between two rounds, and the relay of the exchange. -/
structure Represents (state : State Master) (data : Data Master)
    (relay : Relay.State (Endpoint Master)) : Prop where
  manager_eq : data.manager = relay.manager
  db_eq : data.db = relay.db
  networkId_eq : state.networkId = relay.networkId
  replies_eq : data.replies = relay.replies ++ pending state.relay

/-- The completed rounds lead to the data the relay has. -/
def Refined (state : State Master) (data : Data Master) : Prop :=
  ∃ relay, (Relay.relay (Endpoint Master)).run data.rounds = some relay ∧
    Represents state data relay

theorem Refined.of_same {state next : State Master} {data after : Data Master}
    (refined : Refined state data) (quiet : Quiet state next)
    (same : after.manager = data.manager ∧ after.db = data.db ∧ after.rounds = data.rounds ∧
      after.replies = data.replies) : Refined next after := by
  rcases refined with ⟨relay, ran, represents⟩
  rcases same with ⟨manager_eq, db_eq, rounds_eq, replies_eq⟩
  refine ⟨relay, rounds_eq ▸ ran, ?_, ?_, ?_, ?_⟩
  · rw [manager_eq, represents.manager_eq]
  · rw [db_eq, represents.db_eq]
  · rw [quiet.networkId_eq, represents.networkId_eq]
  · rw [replies_eq, represents.replies_eq, pending, pending, quiet.acknowledged_eq]

/-- A completed round extends the run. -/
theorem run_append {rounds : List (Relay.Round (Endpoint Master))}
    {round : Relay.Round (Endpoint Master)} {relay next : Relay.State (Endpoint Master)}
    (ran : (Relay.relay (Endpoint Master)).run rounds = some relay)
    (iterated : Relay.iterate round relay = some next) :
    (Relay.relay (Endpoint Master)).run (rounds ++ [round]) = some next :=
  (TransitionSystem.runFrom_append_eq_some _).mpr
    ⟨relay, ran, (TransitionSystem.runFrom_cons_eq_some _).mpr ⟨next, iterated, rfl⟩⟩

theorem Refined.processList {state next : State Master} {data processed : Data Master}
    {client : Endpoint Master} {datagram : Datagram} {os : Database.Os}
    (refined : Refined state data) (relay_eq : state.relay = .receiving client)
    (ran : data.processList client datagram os = some processed)
    (networkId_eq : next.networkId = state.networkId) (idle : next.relay = .accepting) :
    Refined next processed := by
  rcases refined with ⟨relay, toRelay, represents⟩
  have iterated := iterate_list client relay datagram os
  have replies_eq : data.replies = (listening client relay).replies ++ pending next.relay := by
    rw [represents.replies_eq, relay_eq, idle]
    simp [pending, acknowledged, listening, Relay.State.reply]
  unfold Data.processList at ran
  split at ran
  · next rejected =>
      simp only [rejected] at iterated
      simp only [Option.some.injEq] at ran
      subst processed
      exact ⟨_, run_append toRelay iterated, represents.manager_eq, represents.db_eq,
        networkId_eq.trans represents.networkId_eq, replies_eq⟩
  · next list accepted =>
      rw [accepted, ← represents.manager_eq] at iterated
      split at ran
      · contradiction
      · next db manager updated =>
          simp only [updated] at iterated
          simp only [Option.some.injEq] at ran
          subst processed
          exact ⟨_, run_append toRelay iterated, rfl, rfl,
            networkId_eq.trans represents.networkId_eq, replies_eq⟩

variable [DecidableEq Master]

theorem Refined.of_effect {state next : State Master} {data after : Data Master}
    {action : Action Master} {input : Input}
    (wellFormed : WellFormed state) (effect : Effect state data input action next after)
    (refined : Refined state data) : Refined next after := by
  cases effect with
  | quiet quiet => exact refined.of_same quiet ⟨rfl, rfl, rfl, rfl⟩
  | stored quiet => exact refined.of_same quiet ⟨rfl, rfl, rfl, rfl⟩
  | sent =>
      rcases refined with ⟨relay, ran, represents⟩
      exact ⟨relay, ran, represents.manager_eq, represents.db_eq, represents.networkId_eq,
        represents.replies_eq⟩
  | @joined client relay_eq =>
      rcases refined with ⟨relay, ran, represents⟩
      refine ⟨_, run_append ran (iterate_join client relay), represents.manager_eq,
        represents.db_eq, ?_, ?_⟩
      · simp only [represents.networkId_eq]
      · have replies_eq := represents.replies_eq
        rw [relay_eq] at replies_eq
        simp [Data.reply, Data.complete, Relay.State.reply, replies_eq, pending, acknowledged,
          represents.networkId_eq]
  | @acknowledged client relay_eq =>
      rcases refined with ⟨relay, ran, represents⟩
      refine ⟨relay, ran, represents.manager_eq, represents.db_eq, represents.networkId_eq, ?_⟩
      have replies_eq := represents.replies_eq
      rw [relay_eq] at replies_eq
      simp [Data.reply, replies_eq, pending, acknowledged]
  | @answered client relay_eq =>
      rcases wellFormed.client_made client (by rw [relay_eq]; rfl) with ⟨request, rfl, -⟩
      rcases refined with ⟨relay, ran, represents⟩
      have iterated := iterate_fetch (.client request) relay
      have replies_eq := represents.replies_eq
      rw [relay_eq] at replies_eq
      rw [← represents.db_eq] at iterated
      simp only [Data.replyFetch]
      split
      · next request' datagram client_eq payload_eq =>
          obtain rfl : request = request' := by simpa using client_eq
          rw [payload_eq] at iterated
          refine ⟨_, run_append ran iterated, represents.manager_eq, rfl,
            represents.networkId_eq, ?_⟩
          simp [Data.reply, Data.complete, Relay.State.reply, replies_eq, pending, acknowledged]
      · next tooLong =>
          cases payload_eq : databasePayload (Relay.served data.db) with
          | some datagram => exact absurd payload_eq (tooLong _ _ rfl)
          | none =>
              rw [payload_eq] at iterated
              refine ⟨_, run_append ran iterated, represents.manager_eq, rfl,
                represents.networkId_eq, ?_⟩
              simp [Data.complete, replies_eq, pending, acknowledged]
  | received relay_eq _ _ _ ran => exact refined.processList relay_eq ran rfl rfl

omit [DecidableEq Master] in
theorem refined_initial : Refined (Exchange.State.initial : State Master) Data.initial :=
  ⟨Relay.State.initial, rfl, rfl, rfl, rfl, rfl⟩

/-- The exchange's invariants hold below the data, and the completed rounds lead to the data. -/
theorem refined_inductive (allowed : State Master × Data Master → Action Master × Input → Prop) :
    (system Master).Inductive allowed fun state => WellFormed state.1 ∧ Refined state.1 state.2 :=
  ((wellFormed_inductive fun _ _ => True).superpose fun _ _ _ => trivial).and refined_initial
    fun stepped _ wellFormed refined =>
      refined.of_effect wellFormed (effect_of_step wellFormed stepped).2

omit [DecidableEq Master] in
/-- Whatever datagram the relay receives next, it gets through the round. -/
theorem Refined.exists_processList {state : State Master} {data : Data Master}
    (refined : Refined state data) (client : Endpoint Master) (datagram : Datagram)
    (os : Database.Os) : (data.processList client datagram os).isSome := by
  rcases refined with ⟨relay, ran, represents⟩
  rcases Relay.exists_run data.rounds with ⟨same, ran', managed⟩
  obtain rfl : relay = same := Option.some.inj (ran.symm.trans ran')
  rcases Relay.exists_iterate (listRound client datagram os) managed with ⟨after, iterated, -⟩
  rw [iterate_list, ← represents.manager_eq] at iterated
  unfold Data.processList
  split
  · rfl
  · next list accepted =>
      rw [accepted] at iterated
      simp only at iterated
      split
      · next undefined => simp [undefined] at iterated
      · rfl

/--
In every interleaving of any number of masters with the network, what the relay has
done is a run of its main loop: the completed rounds lead to the database, the counter
and the replies it has, except that the acknowledgement of the round under way has
been sent already. No datagram makes the database manager's behaviour undefined.
-/
theorem relay_refined (state : State Master) (data : Data Master)
    (reached : (system Master).Reachable (state, data)) :
    (∃ relay, (Relay.relay (Endpoint Master)).run data.rounds = some relay ∧
        Represents state data relay) ∧
      ∀ client datagram os, (data.processList client datagram os).isSome := by
  have refined := ((refined_inductive fun _ _ => True).holds reached).2
  exact ⟨refined, refined.exists_processList⟩

theorem relay_refined_completedRound : ∃ state data,
    (system (Fin 2)).run (sampleRun completedRound) = some (state, data) ∧
      data.rounds.length = 2 ∧
      (∃ relay, (Relay.relay (Endpoint (Fin 2))).run data.rounds = some relay ∧
        Represents state data relay) ∧
      ∀ client datagram os, (data.processList client datagram os).isSome := by
  have counted : ((system (Fin 2)).run (sampleRun completedRound)).map
      (fun state => state.2.rounds.length) = some 2 := by decide
  rcases Option.map_eq_some_iff.mp counted with ⟨⟨state, data⟩, ran, length_eq⟩
  exact ⟨state, data, ran, length_eq,
    relay_refined state data (TransitionSystem.reachable_of_run ran)⟩

end NodeinfoSystem.HugeCluster
