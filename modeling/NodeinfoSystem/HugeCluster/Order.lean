import NodeinfoSystem.HugeCluster.Effect
import Mathlib.Algebra.BigOperators.Group.Finset.Basic

/-!
# Lists are processed once, in the order in which they were sent

The network may reorder and lose datagrams, and the relay does not look at the sender
of a list. Nevertheless it processes every list exactly once, in the order of the
`sendto` calls of all masters together: whoever holds the acknowledgement is the only
one that may send, and the relay makes no other round before that list has arrived.
So a list that is lost is the last one ever sent.

This needs `receive_nodedata_list` to wait: a relay whose data socket cannot be bound, or
whose buffer is not granted, goes back to `accept_request` and acknowledges the next
master while the list is under way.
-/

namespace NodeinfoSystem.HugeCluster

open Foundation Exchange Wire

variable {Master : Type}

/-- The list processed in a round, by the client it was acknowledged to. -/
def listOf (round : Relay.Round (Endpoint Master)) : Option (Endpoint Master × Datagram) :=
  match round.request, round.list with
  | some (client, _), some datagram => some (client, datagram)
  | _, _ => none

def received (rounds : List (Relay.Round (Endpoint Master))) : List (Endpoint Master × Datagram) :=
  rounds.filterMap listOf

theorem received_append_request (rounds : List (Relay.Round (Endpoint Master)))
    (client : Endpoint Master) (kind : Kind) :
    received (rounds ++ [requestRound client kind]) = received rounds := by
  simp [received, listOf, requestRound]

theorem received_append_list (rounds : List (Relay.Round (Endpoint Master)))
    (client : Endpoint Master) (datagram : Datagram) (os : Database.Os) :
    received (rounds ++ [listRound client datagram os]) =
      received rounds ++ [(client, datagram)] := by
  simp [received, listOf, listRound, requestRound]

/-! ## Requests that are over -/

/-- The master neither waits for the reply to the request nor holds one. -/
structure Finished (state : State Master) (request : Request Master) : Prop where
  made : Made state request
  notWaiting : ∀ kind, (state.masters request.master).phase ≠ .waiting kind request.number
  notHolding : (state.masters request.master).phase ≠ .holding request.number

theorem Finished.of_masters_eq {state next : State Master} {request : Request Master}
    (finished : Finished state request) (masters_eq : next.masters = state.masters) :
    Finished next request where
  made := by
    rw [Made, masters_eq]
    exact finished.made
  notWaiting := by
    rw [masters_eq]
    exact finished.notWaiting
  notHolding := by
    rw [masters_eq]
    exact finished.notHolding

section Steps

variable [DecidableEq Master]

theorem Finished.setMaster {state : State Master} {request : Request Master} {master : Master}
    {new : MasterState} {net : Network (Endpoint Master) (Message Master)}
    (finished : Finished state request)
    (later : (state.masters master).nextRequest ≤ new.nextRequest)
    (phase : request.master = master → request.number < (state.masters master).nextRequest →
      (∀ kind, new.phase ≠ .waiting kind request.number) ∧ new.phase ≠ .holding request.number) :
    Finished ((state.setNet net).setMaster master new) request := by
  have made : Made (state.setNet net) request := finished.made
  by_cases same : request.master = master
  · have ended := phase same (same ▸ finished.made)
    refine ⟨made.setMaster later, ?_, ?_⟩
    · rw [same, setMaster_masters_self]
      exact ended.1
    · rw [same, setMaster_masters_self]
      exact ended.2
  · refine ⟨made.setMaster later, ?_, ?_⟩
    · rw [setMaster_masters_of_ne same]
      exact finished.notWaiting
    · rw [setMaster_masters_of_ne same]
      exact finished.notHolding

omit [DecidableEq Master] in
/-- A master that gets a reply holds at most the request it was waiting for. -/
theorem phase_afterReply_ne_holding (state : MasterState) {number other : ℕ} (kind : Kind)
    (message : Message Master) (different : other ≠ number) :
    (state.afterReply number kind message).phase ≠ .holding other := by
  simp only [MasterState.afterReply]
  split
  · split <;> simp
  · simp [different.symm]
  · simp
  · simp

theorem Finished.step {state next : State Master} {action : Action Master}
    {request : Request Master} (stepped : Exchange.Step state action next)
    (finished : Finished state request) : Finished next request := by
  cases stepped with
  | deliver | lose | bindCtrl | bindData | accept | reject | replyJoin | replyReady | replyFetch
  | consume => exact finished.of_masters_eq rfl
  | @request master kind current client current_eq may client_eq =>
      subst current client
      refine finished.setMaster (Nat.le_succ _) ?_
      intro _ earlier
      refine ⟨?_, by simp⟩
      intro other
      simp only [ne_eq, MasterPhase.waiting.injEq, not_and]
      omega
  | @masterReceive master kind number packet net phase_eq received =>
      refine finished.setMaster (by simp) ?_
      intro same _
      refine ⟨fun other => afterReply_phase_ne_waiting _ _ _ _ other _, ?_⟩
      apply phase_afterReply_ne_holding
      rintro rfl
      exact finished.notWaiting kind (same ▸ phase_eq)
  | @masterTimeout master kind number phase_eq =>
      refine finished.setMaster (by simp) ?_
      intro _ _
      refine ⟨fun other => afterTimeout_phase_ne_waiting _ _ other _, ?_⟩
      cases kind <;> simp [MasterState.afterTimeout]
  | masterSendList => exact finished.setMaster (Nat.le_refl _) (by simp)
  | @masterNextRound master phase_eq =>
      change Finished ((state.setNet state.net).setMaster master _) request
      exact finished.setMaster (Nat.le_refl _) (by simp)
  | @masterFail master phase_eq =>
      change Finished ((state.setNet state.net).setMaster master _) request
      exact finished.setMaster (Nat.le_refl _) (by simp)

end Steps

/-! ## The token -/

section Token

variable [Fintype Master]

omit [Fintype Master] in
theorem acknowledged_eq_some {relay : RelayPhase Master} {client : Endpoint Master} :
    acknowledged relay = some client ↔ relay = .receiving client := by
  cases relay <;> simp [acknowledged]

/-- A token is one for the list the relay waits for. -/
theorem relay_of_token {state : State Master} {request : Request Master}
    (invariant : TokenInvariant state) (token : request ∈ tokens state) :
    state.relay = .receiving (.client request) := by
  have allowed := Multiset.mem_of_le invariant.bounded token
  unfold RelayPhase.token at allowed
  split at allowed
  · next relay_eq =>
      rw [Multiset.mem_singleton] at allowed
      rw [relay_eq, allowed]
  · simp at allowed

theorem relay_of_holding {state : State Master} {master : Master} {number : ℕ}
    (invariant : TokenInvariant state)
    (phase_eq : (state.masters master).phase = .holding number) :
    state.relay = .receiving (waitingSocket master number) := by
  have token : ⟨master, number⟩ ∈ tokens state := by
    apply Multiset.mem_add.mpr
    right
    rw [Multiset.mem_sum]
    exact ⟨master, Finset.mem_univ master, by simp [heldToken, phase_eq]⟩
  exact relay_of_token invariant token

theorem relay_of_list {state : State Master} {packet : Packet (Endpoint Master) (Message Master)}
    (wellFormed : WellFormed state) (invariant : TokenInvariant state)
    (packet_mem : packet ∈ state.net.packets) (atData : packet.destination = .relayData) :
    ∃ request, packet.payload = .list request ∧ state.relay = .receiving (.client request) := by
  cases wellFormed.traffic packet packet_mem with
  | request | reply => contradiction
  | list request =>
      refine ⟨request, rfl, relay_of_token invariant ?_⟩
      apply Multiset.mem_add.mpr
      left
      rw [Multiset.mem_filterMap]
      exact ⟨_, packet_mem, packetToken_list state.masters request⟩

end Token

/-! ## The order of the lists -/

/-- What has been sent has been processed, up to the list the relay waits for. -/
structure Ordered (state : State Master) (data : Data Master) : Prop where
  order : data.sent = received data.rounds ∨ ∃ client datagram,
    state.relay = .receiving client ∧ data.sent = received data.rounds ++ [(client, datagram)]
  nodup : (data.sent.map Prod.fst).Nodup
  finished : ∀ request, .client request ∈ data.sent.map Prod.fst → Finished state request
  /-- A list in flight has not been processed. -/
  inFlight : ∀ packet ∈ state.net.packets, packet.destination = .relayData →
    data.sent ≠ received data.rounds

theorem ordered_initial : Ordered (Exchange.State.initial : State Master) Data.initial where
  order := Or.inl rfl
  nodup := List.nodup_nil
  finished _ request_mem := by simp [Data.initial] at request_mem
  inFlight _ packet_mem := by simp [Exchange.State.initial] at packet_mem

namespace Ordered

variable {state next : State Master} {data after : Data Master}

theorem order_of_idle (ordered : Ordered state data)
    (idle : ∀ client, state.relay ≠ .receiving client) : data.sent = received data.rounds := by
  rcases ordered.order with processed | ⟨client, datagram, relay_eq, -⟩
  · exact processed
  · exact absurd relay_eq (idle client)

theorem received_prefix_sent (ordered : Ordered state data) :
    received data.rounds <+: data.sent := by
  rcases ordered.order with order | ⟨client, datagram, -, order⟩
  · rw [order]
  · rw [order]
    exact List.prefix_append _ _

/-- A master that is about to send its list has not sent it yet. -/
theorem not_sent_of_holding (ordered : Ordered state data) {master : Master} {number : ℕ}
    (phase_eq : (state.masters master).phase = .holding number) :
    waitingSocket master number ∉ data.sent.map Prod.fst := by
  intro sent
  exact (ordered.finished ⟨master, number⟩ sent).notHolding phase_eq

/-- The bytes the relay is given are those that were sent for the request. -/
theorem datagram_unique (ordered : Ordered state data) [DecidableEq Master]
    {client : Endpoint Master} {first second : Datagram}
    (found : data.sent.lookup client = some first) (sent : (client, second) ∈ data.sent) :
    first = second := by
  rcases List.lookup_eq_some_iff.mp found with ⟨earlier, later, split, -⟩
  have first_mem : (client, first) ∈ data.sent := by simp [split]
  have same := List.inj_on_of_nodup_map ordered.nodup first_mem sent rfl
  exact congrArg Prod.snd same

theorem of_same (ordered : Ordered state data) (quiet : Quiet state next)
    (same : after.sent = data.sent ∧ after.rounds = data.rounds)
    (finished : ∀ request, Finished state request → Finished next request) :
    Ordered next after := by
  rcases same with ⟨sent_eq, rounds_eq⟩
  refine ⟨?_, ?_, ?_, ?_⟩
  · rw [sent_eq, rounds_eq]
    rcases ordered.order with processed | ⟨client, datagram, relay_eq, order⟩
    · exact Or.inl processed
    · refine Or.inr ⟨client, datagram, ?_, order⟩
      rw [← acknowledged_eq_some] at relay_eq ⊢
      rw [quiet.acknowledged_eq, relay_eq]
  · rw [sent_eq]
    exact ordered.nodup
  · rw [sent_eq]
    exact fun request request_mem => finished request (ordered.finished request request_mem)
  · intro packet packet_mem atData
    rw [sent_eq, rounds_eq]
    rcases quiet.packets packet packet_mem with old | toCtrl
    · exact ordered.inFlight packet old atData
    · rw [toCtrl] at atData
      contradiction

/-- After a round of the relay nothing is outstanding and no list is under way. -/
theorem of_processed (ordered : Ordered state data) (sent_eq : after.sent = data.sent)
    (order : data.sent = received after.rounds)
    (finished : ∀ request, Finished state request → Finished next request)
    (silent : ∀ packet ∈ next.net.packets, packet.destination ≠ .relayData) :
    Ordered next after where
  order := Or.inl (sent_eq.trans order)
  nodup := by
    rw [sent_eq]
    exact ordered.nodup
  finished request request_mem := by
    rw [sent_eq] at request_mem
    exact finished request (ordered.finished request request_mem)
  inFlight packet packet_mem atData := absurd atData (silent packet packet_mem)

end Ordered

section Runs

variable [Fintype Master]

/-- While the relay waits for no list, none is under way. -/
theorem silent_of_idle {state : State Master} (wellFormed : WellFormed state)
    (invariant : TokenInvariant state) (idle : ∀ client, state.relay ≠ .receiving client) :
    ∀ packet ∈ state.net.packets, packet.destination ≠ .relayData := by
  intro packet packet_mem atData
  exact idle _ (relay_of_list wellFormed invariant packet_mem atData).choose_spec.2

/-- The master that may send is the one whose list the relay waits for, and it is the only one. -/
theorem Ordered.order_of_holding {state : State Master} {data : Data Master} {master : Master}
    {number : ℕ} (invariant : TokenInvariant state) (ordered : Ordered state data)
    (phase_eq : (state.masters master).phase = .holding number) :
    data.sent = received data.rounds := by
  rcases ordered.order with processed | ⟨client, datagram, relay_eq, order⟩
  · exact processed
  · rw [relay_of_holding invariant phase_eq] at relay_eq
    simp only [RelayPhase.receiving.injEq] at relay_eq
    have sent : waitingSocket master number ∈ data.sent.map Prod.fst := by simp [order, relay_eq]
    exact absurd sent (ordered.not_sent_of_holding phase_eq)

variable [DecidableEq Master]

theorem finished_of_sent {state : State Master} {master : Master} {number : ℕ}
    {net : Network (Endpoint Master) (Message Master)} (wellFormed : WellFormed state)
    (invariant : TokenInvariant state)
    (phase_eq : (state.masters master).phase = .holding number) :
    Finished ((state.setNet net).setMaster master
      { state.masters master with phase := .updating }) ⟨master, number⟩ := by
  have relay_eq := relay_of_holding invariant phase_eq
  rcases wellFormed.client_made _ (by rw [relay_eq]; rfl) with ⟨request, client_eq, made⟩
  obtain rfl : ⟨master, number⟩ = request := by simpa [waitingSocket] using client_eq
  have kept : Made (state.setNet net) ⟨master, number⟩ := made
  refine ⟨kept.setMaster (Nat.le_refl _), ?_, ?_⟩
  · simp [setMaster_masters_self]
  · simp [setMaster_masters_self]

theorem Ordered.of_effect {state next : State Master} {data after : Data Master}
    {action : Action Master} {input : Input}
    (invariants : WellFormed state ∧ TokenInvariant state)
    (kept : WellFormed next ∧ TokenInvariant next)
    (stepped : Exchange.Step state action next) (effect : Effect state data input action next after)
    (ordered : Ordered state data) : Ordered next after := by
  have finished : ∀ request, Finished state request → Finished next request :=
    fun _ finished => finished.step stepped
  cases effect with
  | quiet quiet => exact ordered.of_same quiet ⟨rfl, rfl⟩ finished
  | stored quiet => exact ordered.of_same quiet ⟨rfl, rfl⟩ finished
  | joined relay_eq =>
      refine ordered.of_processed rfl ?_ finished (silent_of_idle kept.1 kept.2 (by simp))
      simp only [Data.reply, Data.complete, received_append_request]
      exact ordered.order_of_idle (by simp [relay_eq])
  | answered relay_eq =>
      rcases replyFetch_frame _ data with ⟨rounds_eq, sent_eq, -⟩
      refine ordered.of_processed sent_eq ?_ finished (silent_of_idle kept.1 kept.2 (by simp))
      rw [rounds_eq, received_append_request]
      exact ordered.order_of_idle (by simp [relay_eq])
  | @acknowledged client relay_eq =>
      have idle : ∀ client, state.relay ≠ .receiving client := by simp [relay_eq]
      refine ordered.of_processed rfl (ordered.order_of_idle idle) finished ?_
      intro packet packet_mem
      rw [Network.packets_send, Multiset.mem_cons] at packet_mem
      rcases packet_mem with rfl | old
      · rcases invariants.1.client_made client (by rw [relay_eq]; rfl) with ⟨request, rfl, -⟩
        simp
      · exact silent_of_idle invariants.1 invariants.2 idle packet old
  | @received client packet net request datagram processed relay_eq taken payload_eq sent ran =>
      rcases Network.receive_effect taken with ⟨-, atData, -, -⟩
      have packet_mem := Network.mem_packets_of_receive taken
      have frame := processed_of_processList ran
      refine ordered.of_processed frame.sent_eq ?_ finished
        (silent_of_idle kept.1 kept.2 (by simp))
      -- the list in flight is the one outstanding, sent by the client that was acknowledged
      rcases ordered.order with none | ⟨waiting, outstanding, waiting_eq, order⟩
      · exact absurd none (ordered.inFlight packet packet_mem atData)
      · rcases relay_of_list invariants.1 invariants.2 packet_mem atData with
          ⟨carried, carried_eq, client_eq⟩
        obtain rfl : request = carried := by simpa [payload_eq] using carried_eq
        obtain rfl : client = .client request := by simpa [relay_eq] using client_eq
        obtain rfl : Endpoint.client request = waiting := by simpa [relay_eq] using waiting_eq
        obtain rfl : datagram = outstanding :=
          ordered.datagram_unique sent (by simp [order])
        rw [frame.rounds_eq, received_append_list, order]
  | @sent master number datagram phase_eq payload_eq =>
      have processed := ordered.order_of_holding invariants.2 phase_eq
      have relay_eq := relay_of_holding invariants.2 phase_eq
      refine ⟨Or.inr ⟨_, datagram, relay_eq, ?_⟩, ?_, ?_, ?_⟩
      · rw [processed]
      · rw [List.map_append, List.map_singleton, List.nodup_append]
        refine ⟨ordered.nodup, List.nodup_singleton _, ?_⟩
        intro old old_mem new new_mem same
        rw [List.mem_singleton] at new_mem
        subst new old
        exact ordered.not_sent_of_holding phase_eq old_mem
      · intro request request_mem
        rw [List.map_append, List.map_singleton, List.mem_append, List.mem_singleton] at request_mem
        rcases request_mem with old | new
        · exact finished request (ordered.finished request old)
        · obtain rfl : request = ⟨master, number⟩ := by simpa [waitingSocket] using new
          exact finished_of_sent invariants.1 invariants.2 phase_eq
      · intro _ _ _
        simp [processed]

theorem tokens_inductive (allowed : State Master × Data Master → Action Master × Input → Prop) :
    (system Master).Inductive allowed fun state =>
      WellFormed state.1 ∧ TokenInvariant state.1 :=
  (tokenInvariant_inductive fun _ _ => True).superpose fun _ _ _ => trivial

theorem ordered_inductive (allowed : State Master × Data Master → Action Master × Input → Prop) :
    (system Master).Inductive allowed fun state =>
      (WellFormed state.1 ∧ TokenInvariant state.1) ∧ Ordered state.1 state.2 :=
  (tokens_inductive allowed).and ordered_initial fun stepped permitted invariants ordered => by
    rcases effect_of_step invariants.1 stepped with ⟨step, effect⟩
    exact ordered.of_effect invariants ((tokens_inductive allowed).preserved stepped permitted
      invariants) step effect

/--
Every list is processed once, with the bytes that were handed to `sendto` for the
request acknowledged in that round, and in the order of the `sendto` calls of all
masters. At most the last list is outstanding, and then the relay waits for it.
-/
theorem lists_in_order (state : State Master) (data : Data Master)
    (reached : (system Master).Reachable (state, data)) :
    (data.sent.map Prod.fst).Nodup ∧
      (data.sent = received data.rounds ∨ ∃ client datagram, state.relay = .receiving client ∧
        data.sent = received data.rounds ++ [(client, datagram)]) := by
  have ordered := ((ordered_inductive fun _ _ => True).holds reached).2
  exact ⟨ordered.nodup, ordered.order⟩

end Runs

theorem lists_in_order_completedRound : ∃ state data,
    (system (Fin 2)).run (sampleRun completedRound) = some (state, data) ∧
      data.sent.map Prod.fst = [.client ⟨0, 1⟩] ∧ (data.sent.map Prod.fst).Nodup ∧
      (data.sent = received data.rounds ∨ ∃ client datagram, state.relay = .receiving client ∧
        data.sent = received data.rounds ++ [(client, datagram)]) := by
  have sent : ((system (Fin 2)).run (sampleRun completedRound)).map
      (fun state => state.2.sent.map Prod.fst) = some [.client ⟨0, 1⟩] := by decide
  rcases Option.map_eq_some_iff.mp sent with ⟨⟨state, data⟩, ran, sent_eq⟩
  exact ⟨state, data, ran, sent_eq,
    lists_in_order state data (TransitionSystem.reachable_of_run ran)⟩

end NodeinfoSystem.HugeCluster
