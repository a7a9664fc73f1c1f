import NodeinfoSystem.Exchange.Effect

/-!
# Well-formed traffic

Every datagram of the system is a request to the relay's control socket, a reply
from it, or a list to its data socket, and the relay only ever answers a socket
that a request was made from. Sockets are numbered, so a request that has not
been made yet has left no trace.
-/

namespace NodeinfoSystem.Exchange

open Foundation

variable {Master : Type}

inductive Traffic : Packet (Endpoint Master) (Message Master) → Prop
  | request (request : Request Master) (kind : Kind) :
      Traffic ⟨.client request, .relayCtrl, kind.message⟩
  | reply (request : Request Master) (message : Message Master) :
      Traffic ⟨.relayCtrl, .client request, message⟩
  | list (request : Request Master) : Traffic ⟨.data request, .relayData, .list request⟩

/-- A datagram of the conversation about a request. -/
def Touches (request : Request Master) (packet : Packet (Endpoint Master) (Message Master)) :
    Prop :=
  packet.source = .client request ∨ packet.destination = .client request

instance [DecidableEq Master] (request : Request Master)
    (packet : Packet (Endpoint Master) (Message Master)) : Decidable (Touches request packet) :=
  inferInstanceAs (Decidable (_ ∨ _))

def RelayPhase.client? : RelayPhase Master → Option (Endpoint Master)
  | .replying client _ => some client
  | .receiving client => some client
  | _ => none

def Made (state : State Master) (request : Request Master) : Prop :=
  request.number < (state.masters request.master).nextRequest

/-- The shape of the traffic, and the freshness of request numbers. -/
structure WellFormed (state : State Master) : Prop where
  traffic : ∀ packet ∈ state.net.packets, Traffic packet
  made : ∀ packet ∈ state.net.packets, ∀ request, Touches request packet → Made state request
  client_made : ∀ client, state.relay.client? = some client →
    ∃ request, client = .client request ∧ Made state request

variable [DecidableEq Master]

@[simp]
theorem setMaster_net (state : State Master) (master : Master) (new : MasterState) :
    (state.setMaster master new).net = state.net := rfl

@[simp]
theorem setMaster_relay (state : State Master) (master : Master) (new : MasterState) :
    (state.setMaster master new).relay = state.relay := rfl

@[simp]
theorem setMaster_consumed (state : State Master) (master : Master) (new : MasterState) :
    (state.setMaster master new).consumed = state.consumed := rfl

omit [DecidableEq Master] in
@[simp]
theorem setNet_net (state : State Master) (net : Network (Endpoint Master) (Message Master)) :
    (state.setNet net).net = net := rfl

omit [DecidableEq Master] in
@[simp]
theorem setNet_relay (state : State Master) (net : Network (Endpoint Master) (Message Master)) :
    (state.setNet net).relay = state.relay := rfl

omit [DecidableEq Master] in
@[simp]
theorem setNet_masters (state : State Master) (net : Network (Endpoint Master) (Message Master)) :
    (state.setNet net).masters = state.masters := rfl

omit [DecidableEq Master] in
@[simp]
theorem setNet_consumed (state : State Master) (net : Network (Endpoint Master) (Message Master)) :
    (state.setNet net).consumed = state.consumed := rfl

theorem setMaster_masters_self (state : State Master) (master : Master) (new : MasterState) :
    (state.setMaster master new).masters master = new := by
  simp [State.setMaster]

theorem setMaster_masters_of_ne {master other : Master} (different : other ≠ master)
    (state : State Master) (new : MasterState) :
    (state.setMaster master new).masters other = state.masters other := by
  simp [State.setMaster, different]

theorem Made.setMaster {state : State Master} {request : Request Master} (made : Made state request)
    {master : Master} {new : MasterState}
    (later : (state.masters master).nextRequest ≤ new.nextRequest) :
    Made (state.setMaster master new) request := by
  by_cases same : request.master = master
  · subst master
    simp only [Made, setMaster_masters_self]
    exact Nat.lt_of_lt_of_le made later
  · simp only [Made, setMaster_masters_of_ne same]
    exact made

omit [DecidableEq Master] in
@[simp]
theorem nextRequest_afterReply (master : MasterState) (number : ℕ) (kind : Kind)
    (message : Message Master) :
    (master.afterReply number kind message).nextRequest = master.nextRequest := by
  simp only [MasterState.afterReply]
  split
  · split <;> rfl
  all_goals rfl

@[simp]
theorem nextRequest_afterTimeout (master : MasterState) (kind : Kind) :
    (master.afterTimeout kind).nextRequest = master.nextRequest := by
  cases kind <;> rfl

omit [DecidableEq Master] in
theorem afterReply_phase_ne_waiting (state : MasterState) (number : ℕ) (kind : Kind)
    (message : Message Master) (otherKind : Kind) (other : ℕ) :
    (state.afterReply number kind message).phase ≠ .waiting otherKind other := by
  simp only [MasterState.afterReply]
  split
  · split <;> simp
  all_goals simp

theorem afterTimeout_phase_ne_waiting (state : MasterState) (kind otherKind : Kind) (other : ℕ) :
    (state.afterTimeout kind).phase ≠ .waiting otherKind other := by
  cases kind <;> simp [MasterState.afterTimeout]

omit [DecidableEq Master] in
/-- Steps keep the shape if what they add has it, and sockets stay numbered. -/
theorem WellFormed.of_effect {state next : State Master} (wellFormed : WellFormed state)
    (later : ∀ request, Made state request → Made next request)
    (packets : ∀ packet ∈ next.net.packets, packet ∈ state.net.packets ∨
      Traffic packet ∧ ∀ request, Touches request packet → Made next request)
    (client : ∀ client, next.relay.client? = some client → state.relay.client? = some client ∨
      ∃ request, client = .client request ∧ Made next request) :
    WellFormed next where
  traffic packet packet_mem := by
    rcases packets packet packet_mem with old | new
    · exact wellFormed.traffic packet old
    · exact new.1
  made packet packet_mem request touches := by
    rcases packets packet packet_mem with old | new
    · exact later request (wellFormed.made packet old request touches)
    · exact new.2 request touches
  client_made endpoint endpoint_eq := by
    rcases client endpoint endpoint_eq with old | new
    · rcases wellFormed.client_made endpoint old with ⟨request, rfl, made⟩
      exact ⟨request, rfl, later request made⟩
    · exact new

omit [DecidableEq Master] in
theorem WellFormed.of_fewer {state next : State Master} (wellFormed : WellFormed state)
    (packets : next.net.packets ≤ state.net.packets) (masters_eq : next.masters = state.masters)
    (client : ∀ client, next.relay.client? = some client → state.relay.client? = some client) :
    WellFormed next := by
  refine wellFormed.of_effect ?_ ?_ ?_
  · intro request made
    rwa [Made, masters_eq]
  · intro packet packet_mem
    exact Or.inl (Multiset.mem_of_le packets packet_mem)
  · intro endpoint endpoint_eq
    exact Or.inl (client endpoint endpoint_eq)

omit [DecidableEq Master] in
theorem wellFormed_relayReply {state next : State Master} {client : Endpoint Master} {kind : Kind}
    {message : Message Master} (wellFormed : WellFormed state)
    (relay_eq : state.relay = .replying client kind)
    (net_eq : next.net = state.net.send ⟨.relayCtrl, client, message⟩)
    (masters_eq : next.masters = state.masters)
    (client_eq : ∀ endpoint, next.relay.client? = some endpoint → endpoint = client) :
    WellFormed next := by
  have later : ∀ request, Made state request → Made next request := by
    intro request made
    rwa [Made, masters_eq]
  rcases wellFormed.client_made client (by rw [relay_eq]; rfl) with ⟨request, rfl, made⟩
  refine wellFormed.of_effect later ?_ ?_
  · intro packet packet_mem
    rw [net_eq, Network.packets_send, Multiset.mem_cons] at packet_mem
    rcases packet_mem with rfl | old
    · right
      refine ⟨.reply request message, ?_⟩
      intro other touches
      simp only [Touches, reduceCtorEq, Endpoint.client.injEq, false_or] at touches
      exact touches ▸ later request made
    · exact Or.inl old
  · intro endpoint endpoint_eq
    rw [client_eq endpoint endpoint_eq]
    exact Or.inr ⟨request, rfl, later request made⟩

theorem wellFormed_setMaster {state : State Master} {master : Master} {new : MasterState}
    {net : Network (Endpoint Master) (Message Master)} (wellFormed : WellFormed state)
    (later : (state.masters master).nextRequest ≤ new.nextRequest)
    (packets : ∀ packet ∈ net.packets, packet ∈ state.net.packets ∨
      Traffic packet ∧ ∀ request, Touches request packet →
        Made ((state.setNet net).setMaster master new) request) :
    WellFormed ((state.setNet net).setMaster master new) :=
  wellFormed.of_effect
    (fun request made => Made.setMaster (made : Made (state.setNet net) request) later)
    packets (fun _ client_eq => Or.inl client_eq)

theorem wellFormed_step {state next : State Master} {action : Action Master}
    (stepped : Step state action next) (wellFormed : WellFormed state) : WellFormed next := by
  cases stepped with
  | deliver delivered =>
      exact wellFormed.of_fewer (Network.packets_deliver_le delivered) rfl (fun _ same => same)
  | lose lost =>
      exact wellFormed.of_fewer (Network.packets_lose_le lost) rfl (fun _ same => same)
  | bindCtrl relay_eq =>
      exact wellFormed.of_fewer (le_refl _) rfl (by simp [RelayPhase.client?])
  | bindData relay_eq => exact wellFormed.of_fewer (le_refl _) rfl (fun _ same => same)
  | @accept packet net kind relay_eq received kind_eq =>
      rcases Network.receive_effect received with ⟨-, atCtrl, -, removed⟩
      have packet_mem := Network.mem_packets_of_receive received
      refine wellFormed.of_effect (fun _ made => made)
        (fun other other_mem => Or.inl (removed ▸ Multiset.mem_cons_of_mem other_mem)) ?_
      intro client client_eq
      obtain rfl : packet.source = client := Option.some.inj client_eq
      right
      have made := wellFormed.made packet packet_mem
      cases wellFormed.traffic packet packet_mem with
      | request request => exact ⟨request, rfl, made request (Or.inl rfl)⟩
      | reply => contradiction
      | list => contradiction
  | reject relay_eq received =>
      exact wellFormed.of_fewer (Network.packets_receive_le received) rfl (fun _ same => same)
  | replyJoin relay_eq | replyFetch relay_eq =>
      exact wellFormed_relayReply wellFormed relay_eq rfl rfl (by simp [RelayPhase.client?])
  | replyReady relay_eq =>
      exact wellFormed_relayReply wellFormed relay_eq rfl rfl
        (by simp [RelayPhase.client?, eq_comm])
  | consume relay_eq received =>
      exact wellFormed.of_fewer (Network.packets_receive_le received) rfl
        (by simp [RelayPhase.client?])
  | @request master kind current client current_eq may client_eq =>
      subst current client
      refine wellFormed_setMaster wellFormed (Nat.le_succ _) ?_
      intro packet packet_mem
      rw [Network.packets_send, Network.packets_bind, Multiset.mem_cons] at packet_mem
      rcases packet_mem with rfl | old
      · right
        refine ⟨.request _ kind, ?_⟩
        intro request touches
        simp only [Touches, waitingSocket, reduceCtorEq, Endpoint.client.injEq,
          or_false] at touches
        rw [← touches, Made, setMaster_masters_self]
        exact Nat.lt_succ_self _
      · exact Or.inl old
  | masterReceive phase_eq received =>
      have fewer := Network.packets_close_le_of_receive received
      exact wellFormed_setMaster wellFormed (by simp)
        (fun other other_mem => Or.inl (Multiset.mem_of_le fewer other_mem))
  | masterTimeout phase_eq =>
      exact wellFormed_setMaster wellFormed (by simp)
        (fun other other_mem =>
          Or.inl (Multiset.mem_of_le (Network.packets_close_le _ _) other_mem))
  | masterSendList phase_eq =>
      refine wellFormed_setMaster wellFormed (Nat.le_refl _) ?_
      intro packet packet_mem
      rw [Network.packets_send, Multiset.mem_cons] at packet_mem
      rcases packet_mem with rfl | old
      · exact Or.inr ⟨.list _, by simp [Touches]⟩
      · exact Or.inl old
  | masterNextRound phase_eq | masterFail phase_eq =>
      exact wellFormed_setMaster wellFormed (Nat.le_refl _)
        (fun other other_mem => Or.inl other_mem)

omit [DecidableEq Master] in
theorem wellFormed_initial : WellFormed (State.initial : State Master) where
  traffic packet packet_mem := by simp [State.initial] at packet_mem
  made packet packet_mem := by simp [State.initial] at packet_mem
  client_made client client_eq := by simp [State.initial, RelayPhase.client?] at client_eq

theorem wellFormed_inductive (allowed : State Master → Action Master → Prop) :
    (system Master).Inductive allowed WellFormed where
  initial := wellFormed_initial
  preserved stepped _ wellFormed := wellFormed_step (.of_step stepped) wellFormed

end NodeinfoSystem.Exchange
