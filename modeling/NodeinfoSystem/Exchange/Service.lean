import NodeinfoSystem.Exchange.Traffic
import Mathlib.Data.Multiset.Count

/-!
# Whether a list is on its way to the waiting relay

`receive_nodedata_list` has no timeout, so the relay depends on the master it
acknowledged. That dependence fails in two ways. A master that times out closes
the socket the acknowledgement is sent to, although the relay answers the request
all the same. And the data socket is bound only after the first acknowledgement
has been sent, so the first list is discarded when it is faster than `bind`.

In the runs where neither happens, every request is a conversation of one
datagram at a time between a master that waits and the relay, and the
acknowledged master is always on its way to send its list.
-/

namespace NodeinfoSystem.Exchange

open Foundation

variable {Master : Type} [DecidableEq Master]

/-- An acknowledgement is in flight to, or queued at, a master still waiting for it. -/
def AcknowledgementUnderWay (state : State Master) : Prop :=
  ∃ request, ∃ packet ∈ state.net.packets, packet.destination = .client request ∧
    packet.payload = .readyRecv ∧
    (state.masters request.master).phase = .waiting .ready request.number

/-- A master has an acknowledgement and has not sent its list. -/
def ListAboutToBeSent (state : State Master) : Prop :=
  ∃ master number, (state.masters master).phase = .holding number

/-- A list is in flight to, or queued at, the relay's data socket. -/
def ListUnderWay (state : State Master) : Prop :=
  ∃ request, ∃ packet ∈ state.net.packets, packet.destination = .relayData ∧
    packet.payload = .list request

/-- While the relay is in `receive_nodedata_list`, a list is on its way in one of three forms. -/
def Served (state : State Master) : Prop :=
  ∀ client, state.relay = .receiving client →
    AcknowledgementUnderWay state ∨ ListAboutToBeSent state ∨ ListUnderWay state

/-- How many answers to a request the relay is preparing. -/
def RelayPhase.answers (request : Request Master) : RelayPhase Master → ℕ
  | .replying client _ => if client = .client request then 1 else 0
  | _ => 0

/-- How many datagrams and answers in preparation the conversation about a request has. -/
def underWay (state : State Master) (request : Request Master) : ℕ :=
  state.net.packets.countP (Touches request) + state.relay.answers request

def Lossless : Action Master → Prop
  | .lose _ => False
  | _ => True

/--
No master stops waiting while its ready request is under way, and no datagram
reaches the relay's data port before the socket is bound.
-/
def Prompt (state : State Master) : Action Master → Prop
  | .masterTimeout master =>
      match (state.masters master).phase with
      | .waiting .ready number => underWay state ⟨master, number⟩ = 0
      | _ => True
  | .deliver index =>
      match state.net.inFlight[index]? with
      | some packet => packet.destination = .relayData → .relayData ∈ state.net.bound
      | none => True
  | _ => True

/-- The runs considered: nothing is lost, and no exchange is abandoned. -/
def Undisturbed (state : State Master) (action : Action Master) : Prop :=
  Lossless action ∧ Prompt state action

instance (action : Action Master) : Decidable (Lossless action) := by
  cases action <;> dsimp only [Lossless] <;> infer_instance

instance (state : State Master) : (action : Action Master) → Decidable (Prompt state action)
  | .masterTimeout master =>
      let ended : (phase : MasterPhase) → Decidable (match phase with
          | .waiting .ready number => underWay state ⟨master, number⟩ = 0
          | _ => True)
        | .waiting .ready number =>
            inferInstanceAs (Decidable (underWay state ⟨master, number⟩ = 0))
        | .waiting .join _ | .waiting .fetch _ | .starting | .serving | .holding _ | .updating
        | .stopped => instDecidableTrue
      ended (state.masters master).phase
  | .deliver index =>
      let bound : (packet : Option (Packet (Endpoint Master) (Message Master))) →
          Decidable (match packet with
            | some packet => packet.destination = .relayData → .relayData ∈ state.net.bound
            | none => True)
        | some packet => inferInstanceAs
            (Decidable (packet.destination = .relayData → .relayData ∈ state.net.bound))
        | none => instDecidableTrue
      bound state.net.inFlight[index]?
  | .lose _ | .relayBind | .relayAccept | .relayReply | .relayReceive | .request _ _
  | .masterReceive _ | .masterSendList _ | .masterNextRound _ | .masterFail _ => instDecidableTrue

instance (state : State Master) (action : Action Master) :
    Decidable (Undisturbed state action) :=
  inferInstanceAs (Decidable (_ ∧ _))

theorem Prompt.of_timeout {state : State Master} {master : Master} {number : ℕ}
    (prompt : Prompt state (.masterTimeout master))
    (waiting : (state.masters master).phase = .waiting .ready number) :
    underWay state ⟨master, number⟩ = 0 := by
  simpa only [Prompt, waiting] using prompt

theorem Prompt.of_deliver {state : State Master} {index : ℕ}
    {packet : Packet (Endpoint Master) (Message Master)} (prompt : Prompt state (.deliver index))
    (found : state.net.inFlight[index]? = some packet) (atData : packet.destination = .relayData) :
    .relayData ∈ state.net.bound := by
  simp only [Prompt, found] at prompt
  exact prompt atData

/-! ## One datagram at a time -/

/-- Every conversation has at most one datagram or answer in preparation. -/
def Single (state : State Master) : Prop :=
  ∀ request, underWay state request ≤ 1

theorem Single.of_fewer {state next : State Master} (single : Single state)
    (packets : next.net.packets ≤ state.net.packets)
    (relay : ∀ request, next.relay.answers request ≤ state.relay.answers request) :
    Single next := by
  intro request
  have fewer := Multiset.countP_le_of_le (Touches request) packets
  exact (Nat.add_le_add fewer (relay request)).trans (single request)

theorem Single.of_reply {state next : State Master} {client : Endpoint Master} {kind : Kind}
    {message : Message Master} (single : Single state)
    (relay_eq : state.relay = .replying client kind)
    (idle : ∀ request, next.relay.answers request = 0)
    (packets_eq : next.net.packets = ⟨.relayCtrl, client, message⟩ ::ₘ state.net.packets) :
    Single next := by
  intro request
  have before := single request
  simp only [underWay, relay_eq, RelayPhase.answers] at before
  simp only [underWay, idle, packets_eq, Multiset.countP_cons, Touches, reduceCtorEq, false_or]
  omega

theorem underWay_of_not_made {state : State Master} {request : Request Master}
    (wellFormed : WellFormed state) (notMade : ¬Made state request) :
    underWay state request = 0 := by
  have silent : state.net.packets.countP (Touches request) = 0 := by
    rw [Multiset.countP_eq_zero]
    intro packet packet_mem touches
    exact notMade (wellFormed.made packet packet_mem request touches)
  have idle : state.relay.answers request = 0 := by
    cases relay_eq : state.relay with
    | replying client kind =>
        rcases wellFormed.client_made client (by rw [relay_eq]; rfl) with ⟨other, rfl, made⟩
        have different : other ≠ request := fun same => notMade (same ▸ made)
        simp [RelayPhase.answers, different]
    | _ => rfl
  rw [underWay, silent, idle]

theorem single_step {state next : State Master} {action : Action Master}
    (wellFormed : WellFormed state) (single : Single state) (stepped : Step state action next) :
    Single next := by
  cases stepped with
  | deliver delivered =>
      exact single.of_fewer (Network.packets_deliver_le delivered) (fun _ => Nat.le_refl _)
  | lose lost => exact single.of_fewer (Network.packets_lose_le lost) (fun _ => Nat.le_refl _)
  | bindCtrl relay_eq => exact single.of_fewer (le_refl _) (fun _ => Nat.zero_le _)
  | bindData relay_eq => exact single.of_fewer (le_refl _) (fun _ => Nat.le_refl _)
  | accept relay_eq received kind_eq =>
      rcases Network.receive_effect received with ⟨-, atCtrl, -, removed⟩
      intro request
      have before := single request
      simp only [underWay, relay_eq, RelayPhase.answers, removed, Multiset.countP_cons, Touches,
        atCtrl, reduceCtorEq, or_false, Nat.add_zero] at before
      simpa only [underWay, RelayPhase.answers] using before
  | reject relay_eq received =>
      exact single.of_fewer (Network.packets_receive_le received) (fun _ => Nat.le_refl _)
  | replyJoin relay_eq | replyReady relay_eq | replyFetch relay_eq =>
      exact single.of_reply relay_eq (fun _ => rfl) rfl
  | consume relay_eq received =>
      exact single.of_fewer (Network.packets_receive_le received) (fun _ => Nat.zero_le _)
  | @request master kind current client current_eq may client_eq =>
      subst current client
      intro request
      have before := single request
      by_cases new : request = ⟨master, (state.masters master).nextRequest⟩
      · subst request
        have fresh := underWay_of_not_made wellFormed (Nat.lt_irrefl _ : ¬Made state
          ⟨master, (state.masters master).nextRequest⟩)
        simp only [underWay] at fresh
        simp only [underWay, setMaster_net, setNet_net, setMaster_relay, setNet_relay,
          Network.packets_send, Network.packets_bind]
        have touches : Touches ⟨master, (state.masters master).nextRequest⟩
            ⟨waitingSocket master (state.masters master).nextRequest, .relayCtrl,
              kind.message⟩ := Or.inl rfl
        rw [Multiset.countP_cons_of_pos _ touches]
        omega
      · have other : ¬Touches request ⟨waitingSocket master (state.masters master).nextRequest,
            .relayCtrl, kind.message⟩ := by
          simp only [Touches, waitingSocket, Endpoint.client.injEq, reduceCtorEq, or_false]
          exact fun same => new same.symm
        simp only [underWay, setMaster_net, setNet_net, setMaster_relay, setNet_relay,
          Network.packets_send, Network.packets_bind]
        rw [Multiset.countP_cons_of_neg _ other]
        exact before
  | masterReceive phase_eq received =>
      exact single.of_fewer (Network.packets_close_le_of_receive received) (fun _ => Nat.le_refl _)
  | masterTimeout phase_eq =>
      exact single.of_fewer (Network.packets_close_le _ _) (fun _ => Nat.le_refl _)
  | masterSendList phase_eq =>
      intro request
      simp only [underWay, setMaster_net, setNet_net, setMaster_relay, setNet_relay,
        Network.packets_send]
      rw [Multiset.countP_cons_of_neg _ (by simp [Touches])]
      exact single request
  | masterNextRound phase_eq | masterFail phase_eq =>
      exact single.of_fewer (le_refl _) (fun _ => Nat.le_refl _)

theorem Single.eq_of_touches {state : State Master} {request : Request Master}
    {packet other : Packet (Endpoint Master) (Message Master)}
    {rest : Multiset (Packet (Endpoint Master) (Message Master))} (single : Single state)
    (packets_eq : state.net.packets = packet ::ₘ rest) (packet_touches : Touches request packet)
    (other_mem : other ∈ state.net.packets) (other_touches : Touches request other) :
    other = packet := by
  rw [packets_eq, Multiset.mem_cons] at other_mem
  rcases other_mem with same | second
  · exact same
  · exfalso
    have one := single request
    have more := Multiset.countP_pos.mpr ⟨other, second, other_touches⟩
    rw [underWay, packets_eq, Multiset.countP_cons_of_pos _ packet_touches] at one
    omega

/-! ## A waiting master for every ready request -/

def SocketsOpen (state : State Master) : Prop :=
  ∀ master kind number, (state.masters master).phase = .waiting kind number →
    waitingSocket master number ∈ state.net.bound

/-- The ready request of a client is on its way to the relay, or about to be answered. -/
def ReadyUnderWay (state : State Master) (request : Request Master) : Prop :=
  ⟨.client request, .relayCtrl, .readySend⟩ ∈ state.net.packets ∨
    state.relay = .replying (.client request) .ready

/-- Whoever made a ready request that is under way is waiting for the answer. -/
def Waited (state : State Master) : Prop :=
  ∀ request, ReadyUnderWay state request →
    (state.masters request.master).phase = .waiting .ready request.number

theorem underWay_of_ready {state : State Master} {request : Request Master}
    (ready : ReadyUnderWay state request) : underWay state request ≠ 0 := by
  rw [underWay, Nat.ne_zero_iff_zero_lt, Nat.add_pos_iff_pos_or_pos]
  rcases ready with packet_mem | relay_eq
  · exact Or.inl (Multiset.countP_pos.mpr ⟨_, packet_mem, Or.inl rfl⟩)
  · right
    simp [relay_eq, RelayPhase.answers]

omit [DecidableEq Master] in
theorem Waited.of_fewer {state next : State Master} (waited : Waited state)
    (ready : ∀ request, ReadyUnderWay next request → ReadyUnderWay state request)
    (masters_eq : next.masters = state.masters) : Waited next := by
  intro request underWay
  rw [masters_eq]
  exact waited request (ready request underWay)

theorem phase_ne_of_mayRequest {state : MasterState} {kind : Kind} (may : state.MayRequest kind) :
    (∀ otherKind number, state.phase ≠ .waiting otherKind number) ∧
      ∀ number, state.phase ≠ .holding number := by
  refine ⟨?_, ?_⟩
  · intro otherKind number phase_eq
    cases kind <;> simp [MasterState.MayRequest, phase_eq] at may
  · intro number phase_eq
    cases kind <;> simp [MasterState.MayRequest, phase_eq] at may

/-- A step of one master has to be examined for that master's own requests only. -/
theorem Waited.of_setMaster {state : State Master} {master : Master} {new : MasterState}
    (waited : Waited state) (net : Network (Endpoint Master) (Message Master))
    (ready : ∀ request, ReadyUnderWay ((state.setNet net).setMaster master new) request →
      ReadyUnderWay state request)
    (own : ∀ number, ReadyUnderWay ((state.setNet net).setMaster master new) ⟨master, number⟩ →
      (state.masters master).phase ≠ .waiting .ready number) :
    Waited ((state.setNet net).setMaster master new) := by
  intro request underWay
  have before := waited request (ready request underWay)
  by_cases same : request.master = master
  · subst master
    exact absurd before (own request.number underWay)
  · rw [setMaster_masters_of_ne same]
    exact before

omit [DecidableEq Master] in
theorem readyUnderWay_of_fewer {state next : State Master} {request : Request Master}
    (packets : next.net.packets ≤ state.net.packets)
    (relay : next.relay = .replying (.client request) .ready → next.relay = state.relay)
    (ready : ReadyUnderWay next request) : ReadyUnderWay state request := by
  rcases ready with packet_mem | relay_eq
  · exact Or.inl (Multiset.mem_of_le packets packet_mem)
  · exact Or.inr ((relay relay_eq).symm.trans relay_eq)

omit [DecidableEq Master] in
/-- A ready request comes from its client and from nobody else. -/
theorem ReadyUnderWay.of_send {state next : State Master} {request : Request Master}
    {packet : Packet (Endpoint Master) (Message Master)} (ready : ReadyUnderWay next request)
    (packets_eq : next.net.packets = packet ::ₘ state.net.packets)
    (foreign : packet.source ≠ .client request)
    (relay : next.relay = .replying (.client request) .ready → next.relay = state.relay) :
    ReadyUnderWay state request := by
  rcases ready with packet_mem | relay_eq
  · rw [packets_eq, Multiset.mem_cons] at packet_mem
    rcases packet_mem with same | old
    · exact absurd (congrArg Packet.source same).symm foreign
    · exact Or.inl old
  · exact Or.inr ((relay relay_eq).symm.trans relay_eq)

omit [DecidableEq Master] in
theorem ready_of_accepted {state : State Master} {request : Request Master}
    {packet : Packet (Endpoint Master) (Message Master)} (wellFormed : WellFormed state)
    (packet_mem : packet ∈ state.net.packets) (atCtrl : packet.destination = .relayCtrl)
    (source_eq : packet.source = .client request) (kind_eq : packet.payload.kind = some .ready) :
    ReadyUnderWay state request := by
  left
  cases wellFormed.traffic packet packet_mem with
  | request other kind =>
      simp only [Endpoint.client.injEq] at source_eq
      subst other
      cases kind with
      | ready => exact packet_mem
      | join => cases kind_eq
      | fetch => cases kind_eq
  | reply => contradiction
  | list => contradiction

theorem not_ready_after_receive {state : State Master} {master : Master} {number : ℕ}
    {packet : Packet (Endpoint Master) (Message Master)}
    {net : Network (Endpoint Master) (Message Master)} {new : MasterState} (single : Single state)
    (received : state.net.receive (waitingSocket master number) = some (packet, net)) :
    ¬ReadyUnderWay ((state.setNet (net.close (waitingSocket master number))).setMaster master new)
      ⟨master, number⟩ := by
  rcases Network.receive_effect received with ⟨-, here, -, removed⟩
  intro ready
  -- the packet received and the ready request would be two parts of one conversation
  have before := single ⟨master, number⟩
  have after := Nat.pos_of_ne_zero (underWay_of_ready ready)
  have fewer := Multiset.countP_le_of_le (Touches (⟨master, number⟩ : Request Master))
    (Network.packets_close_le (waitingSocket master number) net)
  have touches : Touches (⟨master, number⟩ : Request Master) packet := Or.inr here
  rw [underWay, removed, Multiset.countP_cons_of_pos _ touches] at before
  simp only [underWay, setMaster_net, setNet_net, setMaster_relay, setNet_relay] at after
  omega

theorem waited_step {state next : State Master} {action : Action Master}
    (wellFormed : WellFormed state) (single : Single state) (prompt : Prompt state action)
    (waited : Waited state) (stepped : Step state action next) : Waited next := by
  cases stepped with
  | deliver delivered =>
      exact waited.of_fewer (fun request => readyUnderWay_of_fewer
        (Network.packets_deliver_le delivered) (fun _ => rfl)) rfl
  | lose lost =>
      exact waited.of_fewer (fun request => readyUnderWay_of_fewer
        (Network.packets_lose_le lost) (fun _ => rfl)) rfl
  | bindCtrl relay_eq =>
      exact waited.of_fewer (fun request => readyUnderWay_of_fewer (le_refl _)
        (fun replying => by contradiction)) rfl
  | bindData relay_eq =>
      exact waited.of_fewer (fun request => readyUnderWay_of_fewer (le_refl _) (fun _ => rfl)) rfl
  | @accept packet net kind relay_eq received kind_eq =>
      rcases Network.receive_effect received with ⟨-, atCtrl, -, removed⟩
      refine waited.of_fewer ?_ rfl
      intro request ready
      rcases ready with packet_mem | replying
      · exact Or.inl (removed ▸ Multiset.mem_cons_of_mem packet_mem)
      · simp only [RelayPhase.replying.injEq] at replying
        exact ready_of_accepted wellFormed (Network.mem_packets_of_receive received) atCtrl
          replying.1 (replying.2 ▸ kind_eq)
  | reject relay_eq received =>
      exact waited.of_fewer (fun request => readyUnderWay_of_fewer
        (Network.packets_receive_le received) (fun _ => rfl)) rfl
  | replyJoin relay_eq | replyReady relay_eq | replyFetch relay_eq =>
      refine waited.of_fewer ?_ rfl
      intro request ready
      exact ready.of_send (Network.packets_send _ _) (by simp) (fun replying => by contradiction)
  | consume relay_eq received =>
      exact waited.of_fewer (fun request => readyUnderWay_of_fewer
        (Network.packets_receive_le received) (fun replying => by contradiction)) rfl
  | @request master kind current client current_eq may client_eq =>
      subst current client
      intro request ready
      by_cases new : request = ⟨master, (state.masters master).nextRequest⟩
      · subst request
        rw [setMaster_masters_self]
        rcases ready with packet_mem | replying
        · rw [setMaster_net, setNet_net, Network.packets_send, Multiset.mem_cons] at packet_mem
          rcases packet_mem with same | old
          · cases kind with
            | ready => rfl
            | join => cases same
            | fetch => cases same
          · exact absurd (wellFormed.made _ old _ (Or.inl rfl)) (Nat.lt_irrefl _)
        · have unmade := underWay_of_not_made wellFormed (Nat.lt_irrefl _ : ¬Made state
            ⟨master, (state.masters master).nextRequest⟩)
          exact absurd unmade (underWay_of_ready (Or.inr replying))
      · have before : ReadyUnderWay state request := by
          refine ready.of_send (Network.packets_send _ _) ?_ (fun _ => rfl)
          rw [waitingSocket, ne_eq, Endpoint.client.injEq]
          exact Ne.symm new
        have waiting := waited request before
        by_cases same : request.master = master
        · rw [same] at waiting
          exact absurd waiting ((phase_ne_of_mayRequest may).1 _ _)
        · rw [setMaster_masters_of_ne same]
          exact waiting
  | @masterReceive master kind number packet net phase_eq received =>
      apply waited.of_setMaster
      · intro request
        exact readyUnderWay_of_fewer (Network.packets_close_le_of_receive received) (fun _ => rfl)
      · intro other ready waiting
        simp only [phase_eq, MasterPhase.waiting.injEq] at waiting
        obtain rfl : number = other := waiting.2
        exact not_ready_after_receive single received ready
  | @masterTimeout master kind number phase_eq =>
      have fewer : ∀ request, ReadyUnderWay ((state.setNet (state.net.close
          (waitingSocket master number))).setMaster master
            ((state.masters master).afterTimeout kind)) request → ReadyUnderWay state request :=
        fun request => readyUnderWay_of_fewer (Network.packets_close_le _ _) (fun _ => rfl)
      apply waited.of_setMaster _ fewer
      intro other ready waiting
      exact underWay_of_ready (fewer _ ready) (prompt.of_timeout waiting)
  | masterSendList phase_eq =>
      apply waited.of_setMaster
      · intro request ready
        exact ready.of_send (Network.packets_send _ _) (by simp) (fun _ => rfl)
      · intro other _ waiting
        simp [phase_eq] at waiting
  | masterNextRound phase_eq =>
      apply waited.of_setMaster state.net (fun _ ready => ready)
      intro other _ waiting
      simp [phase_eq] at waiting
  | masterFail phase_eq =>
      apply waited.of_setMaster state.net (fun _ ready => ready)
      intro other _ waiting
      simp [waiting] at phase_eq

/-! ## The acknowledged master is on its way to send its list -/

/-- The acknowledgement of a request, its master, or its list is under way. -/
def Carried (state : State Master) (request : Request Master) : Prop :=
  ⟨.relayCtrl, .client request, .readyRecv⟩ ∈ state.net.packets ∧
      (state.masters request.master).phase = .waiting .ready request.number ∨
    (state.masters request.master).phase = .holding request.number ∨
    ⟨.data request, .relayData, .list request⟩ ∈ state.net.packets

/-- The request that the relay has acknowledged is carried by one of the three. -/
def Carrying (state : State Master) : Prop :=
  ∀ request, state.relay = .receiving (.client request) → Carried state request

omit [DecidableEq Master] in
theorem Carried.of_kept {state next : State Master} {request : Request Master}
    (carried : Carried state request)
    (acknowledgement : ⟨.relayCtrl, .client request, .readyRecv⟩ ∈ state.net.packets →
      (state.masters request.master).phase = .waiting .ready request.number →
      ⟨.relayCtrl, .client request, .readyRecv⟩ ∈ next.net.packets)
    (list : ⟨.data request, .relayData, .list request⟩ ∈ state.net.packets →
      ⟨.data request, .relayData, .list request⟩ ∈ next.net.packets)
    (phase : (next.masters request.master).phase = (state.masters request.master).phase) :
    Carried next request := by
  rcases carried with ⟨packet_mem, waiting⟩ | holding | packet_mem
  · exact Or.inl ⟨acknowledgement packet_mem waiting, phase.trans waiting⟩
  · exact Or.inr (Or.inl (phase.trans holding))
  · exact Or.inr (Or.inr (list packet_mem))

/--
A step of one master keeps what carries a request, unless it is that master's own
step from the phase that carries it.
-/
theorem Carried.of_setMaster {state : State Master} {request : Request Master} {master : Master}
    {new : MasterState} (carried : Carried state request)
    (net : Network (Endpoint Master) (Message Master))
    (acknowledgement : ⟨.relayCtrl, .client request, .readyRecv⟩ ∈ state.net.packets →
      request.master ≠ master → ⟨.relayCtrl, .client request, .readyRecv⟩ ∈ net.packets)
    (list : ⟨.data request, .relayData, .list request⟩ ∈ state.net.packets →
      ⟨.data request, .relayData, .list request⟩ ∈ net.packets)
    (own : request.master = master →
      ((state.masters master).phase = .waiting .ready request.number →
          ⟨.relayCtrl, .client request, .readyRecv⟩ ∈ state.net.packets →
          new.phase = .holding request.number) ∧
        ((state.masters master).phase = .holding request.number →
          ⟨.data request, .relayData, .list request⟩ ∈ net.packets)) :
    Carried ((state.setNet net).setMaster master new) request := by
  by_cases same : request.master = master
  · rcases own same with ⟨received, sent⟩
    subst master
    rcases carried with ⟨packet_mem, waiting⟩ | holding | packet_mem
    · right; left
      rw [setMaster_masters_self]
      exact received waiting packet_mem
    · exact Or.inr (Or.inr (sent holding))
    · exact Or.inr (Or.inr (list packet_mem))
  · apply carried.of_kept
    · intro packet_mem _
      exact acknowledgement packet_mem same
    · exact list
    · rw [setMaster_masters_of_ne same]
      rfl

omit [DecidableEq Master] in
theorem client_ne_waitingSocket {request : Request Master} {master : Master} {number : ℕ}
    (different : request.master ≠ master) : .client request ≠ waitingSocket master number := by
  simp only [waitingSocket, ne_eq, Endpoint.client.injEq]
  exact fun same => different (congrArg Request.master same)

theorem carrying_step {state next : State Master} {action : Action Master}
    (single : Single state) (open_ : SocketsOpen state)
    (waited : Waited state) (lossless : Lossless action) (prompt : Prompt state action)
    (carrying : Carrying state) (stepped : Step state action next) : Carrying next := by
  intro request receiving
  cases stepped with
  | @deliver index net delivered =>
      have carried := carrying request receiving
      rcases Network.deliver_effect delivered with
        ⟨-, packet, found, ⟨-, same⟩ | ⟨unbound, removed⟩⟩
      · refine carried.of_kept ?_ ?_ rfl
        · intro packet_mem _
          exact same ▸ packet_mem
        · intro packet_mem
          exact same ▸ packet_mem
      · -- neither an acknowledgement that is waited for nor a list is discarded
        refine carried.of_kept ?_ ?_ rfl
        · intro packet_mem waiting
          rw [removed, Multiset.mem_cons] at packet_mem
          rcases packet_mem with rfl | kept
          · exact absurd (open_ _ _ _ waiting) unbound
          · exact kept
        · intro packet_mem
          rw [removed, Multiset.mem_cons] at packet_mem
          rcases packet_mem with rfl | kept
          · exact absurd (prompt.of_deliver found rfl) unbound
          · exact kept
  | lose lost => exact absurd lossless id
  | bindCtrl relay_eq => contradiction
  | bindData relay_eq =>
      exact (carrying request receiving).of_kept (fun packet_mem _ => packet_mem)
        (fun packet_mem => packet_mem) rfl
  | accept relay_eq received kind_eq => contradiction
  | reject relay_eq received =>
      rw [setNet_relay, relay_eq] at receiving
      contradiction
  | replyJoin relay_eq => contradiction
  | replyReady relay_eq =>
      simp only [RelayPhase.receiving.injEq] at receiving
      subst receiving
      refine Or.inl ⟨?_, waited request (Or.inr relay_eq)⟩
      rw [Network.packets_send]
      exact Multiset.mem_cons_self _ _
  | replyFetch relay_eq => contradiction
  | consume relay_eq received => contradiction
  | @request master kind current client current_eq may client_eq =>
      subst current client
      have phase_ne := phase_ne_of_mayRequest may
      refine (carrying request receiving).of_setMaster _ ?_ ?_ ?_
      · intro packet_mem _
        exact Multiset.mem_cons_of_mem packet_mem
      · intro packet_mem
        exact Multiset.mem_cons_of_mem packet_mem
      · rintro rfl
        exact ⟨fun waiting _ => absurd waiting (phase_ne.1 _ _),
          fun holding => absurd holding (phase_ne.2 _)⟩
  | @masterReceive master kind number packet net phase_eq received =>
      rcases Network.receive_effect received with ⟨-, here, -, removed⟩
      have kept : ∀ other ∈ state.net.packets, other.destination ≠ waitingSocket master number →
          other ∈ (net.close (waitingSocket master number)).packets := by
        intro other other_mem elsewhere
        rw [removed, Multiset.mem_cons] at other_mem
        rcases other_mem with rfl | old
        · exact absurd here elsewhere
        · exact Network.mem_packets_close old elsewhere
      refine (carrying request receiving).of_setMaster _ ?_ ?_ ?_
      · intro packet_mem different
        exact kept _ packet_mem (client_ne_waitingSocket different)
      · intro packet_mem
        exact kept _ packet_mem (by simp [waitingSocket])
      · rintro rfl
        refine ⟨?_, ?_⟩
        · -- the packet received is the acknowledgement itself
          intro waiting packet_mem
          simp only [phase_eq, MasterPhase.waiting.injEq] at waiting
          rcases waiting with ⟨rfl, rfl⟩
          have same := single.eq_of_touches removed (Or.inr here) packet_mem (Or.inr rfl)
          rw [← same]
          rfl
        · intro holding
          simp [phase_eq] at holding
  | @masterTimeout master kind number phase_eq =>
      refine (carrying request receiving).of_setMaster _ ?_ ?_ ?_
      · intro packet_mem different
        exact Network.mem_packets_close packet_mem (client_ne_waitingSocket different)
      · intro packet_mem
        exact Network.mem_packets_close packet_mem (by simp [waitingSocket])
      · rintro rfl
        refine ⟨?_, ?_⟩
        · intro waiting packet_mem
          have idle := prompt.of_timeout waiting
          rw [underWay, Nat.add_eq_zero_iff, Multiset.countP_eq_zero] at idle
          exact absurd (Or.inr rfl) (idle.1 _ packet_mem)
        · intro holding
          simp [phase_eq] at holding
  | @masterSendList master number phase_eq =>
      refine (carrying request receiving).of_setMaster _ ?_ ?_ ?_
      · intro packet_mem _
        exact Multiset.mem_cons_of_mem packet_mem
      · intro packet_mem
        exact Multiset.mem_cons_of_mem packet_mem
      · rintro rfl
        refine ⟨?_, ?_⟩
        · intro waiting
          simp [phase_eq] at waiting
        · intro holding
          simp only [phase_eq, MasterPhase.holding.injEq] at holding
          subst number
          rw [Network.packets_send]
          exact Multiset.mem_cons_self _ _
  | masterNextRound phase_eq =>
      refine (carrying request receiving).of_setMaster state.net
        (fun packet_mem _ => packet_mem) (fun packet_mem => packet_mem) ?_
      rintro rfl
      simp [phase_eq]
  | masterFail phase_eq =>
      refine (carrying request receiving).of_setMaster state.net
        (fun packet_mem _ => packet_mem) (fun packet_mem => packet_mem) ?_
      rintro rfl
      refine ⟨fun waiting => ?_, fun holding => ?_⟩
      · simp [waiting] at phase_eq
      · simp [holding] at phase_eq

theorem SocketsOpen.of_setMaster {state : State Master} {master : Master} {new : MasterState}
    (open_ : SocketsOpen state) (net : Network (Endpoint Master) (Message Master))
    (kept : ∀ other number, other ≠ master → waitingSocket other number ∈ state.net.bound →
      waitingSocket other number ∈ net.bound)
    (own : ∀ kind number, new.phase = .waiting kind number →
      waitingSocket master number ∈ net.bound) :
    SocketsOpen ((state.setNet net).setMaster master new) := by
  intro other kind number waiting
  by_cases same : other = master
  · subst other
    rw [setMaster_masters_self] at waiting
    exact own kind number waiting
  · rw [setMaster_masters_of_ne same] at waiting
    exact kept other number same (open_ other kind number waiting)

theorem mem_bound_close {net : Network (Endpoint Master) (Message Master)} {master other : Master}
    {number otherNumber : ℕ} (different : other ≠ master)
    (isBound : waitingSocket other otherNumber ∈ net.bound) :
    waitingSocket other otherNumber ∈ (net.close (waitingSocket master number)).bound := by
  simp only [Network.close, List.mem_filter, decide_eq_true_eq]
  exact ⟨isBound, client_ne_waitingSocket different⟩

theorem socketsOpen_step {state next : State Master} {action : Action Master}
    (open_ : SocketsOpen state) (stepped : Step state action next) : SocketsOpen next := by
  cases stepped with
  | deliver delivered =>
      intro master kind number waiting
      rw [setNet_net, (Network.deliver_effect delivered).1]
      exact open_ master kind number waiting
  | lose lost =>
      intro master kind number waiting
      rw [setNet_net, (Network.lose_effect lost).1]
      exact open_ master kind number waiting
  | bindCtrl relay_eq | bindData relay_eq =>
      intro master kind number waiting
      exact List.mem_cons_of_mem _ (open_ master kind number waiting)
  | accept relay_eq received kind_eq | reject relay_eq received | consume relay_eq received =>
      intro master kind number waiting
      exact (Network.receive_effect received).1 ▸ open_ master kind number waiting
  | replyJoin relay_eq | replyReady relay_eq | replyFetch relay_eq =>
      intro master kind number waiting
      exact open_ master kind number waiting
  | request current_eq may client_eq =>
      subst current_eq client_eq
      apply open_.of_setMaster
      · intro other number _ isBound
        exact List.mem_cons_of_mem _ isBound
      · intro kind number waiting
        simp only [MasterPhase.waiting.injEq] at waiting
        exact waiting.2 ▸ List.mem_cons_self
  | masterReceive phase_eq received =>
      apply open_.of_setMaster
      · intro other number different isBound
        apply mem_bound_close different
        rwa [(Network.receive_effect received).1]
      · intro kind number waiting
        exact absurd waiting (afterReply_phase_ne_waiting _ _ _ _ _ _)
  | masterTimeout phase_eq =>
      apply open_.of_setMaster
      · intro other number different isBound
        exact mem_bound_close different isBound
      · intro kind number waiting
        exact absurd waiting (afterTimeout_phase_ne_waiting _ _ _ _)
  | masterSendList phase_eq =>
      apply open_.of_setMaster
      · intro other number _ isBound
        exact isBound
      · intro kind number waiting
        contradiction
  | masterNextRound phase_eq | masterFail phase_eq =>
      apply open_.of_setMaster state.net
      · intro other number _ isBound
        exact isBound
      · intro kind number waiting
        contradiction

/-! ## Runs -/

/-- What holds throughout the runs in which no exchange is abandoned. -/
structure Conversing (state : State Master) : Prop where
  wellFormed : WellFormed state
  single : Single state
  open_ : SocketsOpen state
  waited : Waited state
  carrying : Carrying state

theorem conversing_initial : Conversing (State.initial : State Master) where
  wellFormed := wellFormed_initial
  single request := by simp [underWay, State.initial, RelayPhase.answers]
  open_ master kind number waiting := by simp [State.initial] at waiting
  waited request ready := by simp [ReadyUnderWay, State.initial] at ready
  carrying request receiving := by simp [State.initial] at receiving

theorem conversing_inductive : (system Master).Inductive Undisturbed Conversing where
  initial := conversing_initial
  preserved stepped permitted conversing := by
    have step := Step.of_step stepped
    exact {
      wellFormed := wellFormed_step step conversing.wellFormed
      single := single_step conversing.wellFormed conversing.single step
      open_ := socketsOpen_step conversing.open_ step
      waited := waited_step conversing.wellFormed conversing.single permitted.2 conversing.waited
        step
      carrying := carrying_step conversing.single conversing.open_ conversing.waited permitted.1
        permitted.2 conversing.carrying step }

theorem Conversing.served {state : State Master} (conversing : Conversing state) :
    Served state := by
  intro client receiving
  rcases conversing.wellFormed.client_made client (by rw [receiving]; rfl) with
    ⟨request, rfl, -⟩
  rcases conversing.carrying request receiving with ⟨packet_mem, waiting⟩ | holding | packet_mem
  · exact Or.inl ⟨request, _, packet_mem, rfl, rfl, waiting⟩
  · exact Or.inr (Or.inl ⟨_, _, holding⟩)
  · exact Or.inr (Or.inr ⟨request, _, packet_mem, rfl, rfl⟩)

/--
In every run without losses in which no ready request is abandoned and no list
arrives before the data socket is bound, the relay is never left waiting.
-/
theorem served_of_prompt (state : State Master)
    (reached : (system Master).ReachableWith Undisturbed state) : Served state :=
  (conversing_inductive.holds reached).served

theorem served_acknowledgedRound : ∃ state : State (Fin 2),
    (system (Fin 2)).runWithin Undisturbed State.initial acknowledgedRound = some state ∧
      state.relay = .receiving (.client ⟨0, 1⟩) ∧ Served state := by
  have phase : ((system (Fin 2)).runWithin Undisturbed State.initial acknowledgedRound).map
      State.relay = some (.receiving (.client ⟨0, 1⟩)) := by decide
  rcases Option.map_eq_some_iff.mp phase with ⟨state, ran, relay_eq⟩
  exact ⟨state, ran, relay_eq, served_of_prompt state (.runWithin .initial ran)⟩

/-- Once the acknowledged master has stopped waiting, nobody will send a list. -/
theorem not_served_abandonedRound : ¬∀ state : State (Fin 2),
    (system (Fin 2)).ReachableWith (fun _ action => Lossless action) state → Served state := by
  intro served
  have ended : ((system (Fin 2)).run abandonedRound).map (fun state => (state.relay,
      state.net.inFlight ++ state.net.queued, (state.masters 0).phase, (state.masters 1).phase)) =
        some (.receiving (.client ⟨0, 1⟩), [⟨.relayCtrl, .client ⟨0, 1⟩, .readyRecv⟩], .updating,
          .starting) := by
    decide
  rcases Option.map_eq_some_iff.mp ended with ⟨state, ran, state_eq⟩
  simp only [Prod.mk.injEq] at state_eq
  rcases state_eq with ⟨relay_eq, packets_eq, phase_zero, phase_one⟩
  have lossless : ∀ before : State (Fin 2), ∀ action ∈ abandonedRound, Lossless action := by
    intro _
    decide
  have reached : (system (Fin 2)).ReachableWith (fun _ action => Lossless action) state :=
    .runFrom .initial lossless ran
  have only : ∀ packet ∈ state.net.packets,
      packet = ⟨.relayCtrl, .client ⟨0, 1⟩, .readyRecv⟩ := by
    intro packet packet_mem
    simpa [Network.packets, packets_eq] using packet_mem
  rcases served state reached _ relay_eq with
    ⟨request, packet, packet_mem, destination_eq, -, waiting⟩ | ⟨master, number, holding⟩ |
      ⟨request, packet, packet_mem, destination_eq, -⟩
  · rw [only packet packet_mem, Endpoint.client.injEq] at destination_eq
    subst request
    rw [phase_zero] at waiting
    contradiction
  · rcases (by decide : ∀ other : Fin 2, other = 0 ∨ other = 1) master with rfl | rfl
    · exact absurd (phase_zero.symm.trans holding) (by simp)
    · exact absurd (phase_one.symm.trans holding) (by simp)
  · rw [only packet packet_mem] at destination_eq
    contradiction

end NodeinfoSystem.Exchange
