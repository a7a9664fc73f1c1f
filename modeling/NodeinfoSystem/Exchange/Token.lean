import NodeinfoSystem.Exchange.Traffic
import Mathlib.Algebra.BigOperators.Group.Finset.Piecewise
import Mathlib.Algebra.Order.Group.Multiset
import Mathlib.Data.Fintype.Basic

/-!
# The acknowledgement as a token

An acknowledgement that a master still waits for, a master that has received one
and not sent its list, and a list that has not been received are three forms of
one token: each step turns one into the next or destroys it, and only the relay
creates one, when it leaves `accept_request`. So there is never more than one,
it belongs to the request the relay acknowledged last, and there is none while
the relay is in `accept_request`.
-/

namespace NodeinfoSystem.Exchange

open Foundation

variable {Master : Type} [DecidableEq Master]

/--
The token a packet carries: an acknowledgement whose master is still waiting for
it, or a list on its way to the relay.
-/
def packetToken (masters : Master → MasterState)
    (packet : Packet (Endpoint Master) (Message Master)) : Option (Request Master) :=
  match packet.destination, packet.payload with
  | .client request, .readyRecv =>
      if (masters request.master).phase = .waiting .ready request.number then some request
      else none
  | .relayData, .list request => some request
  | _, _ => none

omit [DecidableEq Master] in
theorem packetToken_list (masters : Master → MasterState) (request : Request Master) :
    packetToken masters ⟨.data request, .relayData, .list request⟩ = some request := rfl

/-- The token a master holds: it has the acknowledgement and has not sent its list. -/
def heldToken (master : Master) (state : MasterState) : Multiset (Request Master) :=
  match state.phase with
  | .holding number => {⟨master, number⟩}
  | _ => 0

def tokens [Fintype Master] (state : State Master) : Multiset (Request Master) :=
  state.net.packets.filterMap (packetToken state.masters) +
    ∑ master, heldToken master (state.masters master)

/-- The token that a phase of the relay allows. -/
def RelayPhase.token : RelayPhase Master → Multiset (Request Master)
  | .receiving (.client request) => {request}
  | _ => 0

/-- Forgetting some tokens and keeping the others leaves fewer tokens. -/
theorem filterMap_le_of_agree {α β : Type} {f g : α → Option β} {xs : Multiset α}
    (agree : ∀ x ∈ xs, g x = none ∨ g x = f x) : xs.filterMap g ≤ xs.filterMap f := by
  induction xs using Multiset.induction_on with
  | empty => simp
  | cons x xs ih =>
      have rest := ih fun y y_mem => agree y (Multiset.mem_cons_of_mem y_mem)
      rcases agree x (Multiset.mem_cons_self x xs) with lost | kept
      · rw [Multiset.filterMap_cons_none _ _ lost]
        cases found : f x with
        | none => rwa [Multiset.filterMap_cons_none _ _ found]
        | some y =>
            rw [Multiset.filterMap_cons_some _ _ _ found]
            exact rest.trans (Multiset.le_cons_self _ _)
      · cases found : f x with
        | none =>
            rwa [Multiset.filterMap_cons_none _ _ found,
              Multiset.filterMap_cons_none _ _ (kept.trans found)]
        | some y =>
            rw [Multiset.filterMap_cons_some _ _ _ found,
              Multiset.filterMap_cons_some _ _ _ (kept.trans found)]
            exact Multiset.cons_le_cons _ rest

section Tokens

variable [Fintype Master]

omit [DecidableEq Master] in
theorem tokens_le_of_packets_le {state next : State Master}
    (masters_eq : next.masters = state.masters)
    (fewer : next.net.packets ≤ state.net.packets) : tokens next ≤ tokens state := by
  simp only [tokens, masters_eq]
  exact Multiset.add_le_add_right (Multiset.filterMap_le_filterMap _ fewer) 

/-- A step of one master compares only that master's token and the packets. -/
theorem tokens_setMaster_le {state : State Master} {master : Master} {new : MasterState}
    (net : Network (Endpoint Master) (Message Master))
    (compare : net.packets.filterMap (packetToken ((state.setMaster master new).masters)) +
        heldToken master new ≤
      state.net.packets.filterMap (packetToken state.masters) +
        heldToken master (state.masters master)) :
    tokens ((state.setNet net).setMaster master new) ≤ tokens state := by
  have updated : ∀ other, heldToken other ((state.setMaster master new).masters other) =
      Function.update (fun other => heldToken other (state.masters other)) master
        (heldToken master new) other :=
    Function.apply_update (fun other => heldToken other) state.masters master new
  simp only [tokens]
  calc
    _ = net.packets.filterMap (packetToken (state.setMaster master new).masters) +
          ∑ other, heldToken other ((state.setMaster master new).masters other) := rfl
    _ = net.packets.filterMap (packetToken (state.setMaster master new).masters) +
          heldToken master new +
          ∑ other ∈ Finset.univ \ {master}, heldToken other (state.masters other) := by
        rw [Finset.sum_congr rfl fun other _ => updated other,
          Finset.sum_update_of_mem (Finset.mem_univ master), add_assoc]
    _ ≤ state.net.packets.filterMap (packetToken state.masters) +
          heldToken master (state.masters master) +
          ∑ other ∈ Finset.univ \ {master}, heldToken other (state.masters other) :=
        Multiset.add_le_add_right compare 
    _ = _ := by
        rw [add_assoc, Finset.sum_eq_add_sum_sdiff_singleton_of_mem (Finset.mem_univ master)
          fun other => heldToken other (state.masters other)]

end Tokens

/-- Once a master has stopped waiting, the acknowledgements for it are no tokens any more. -/
theorem packetToken_setMaster {state : State Master} {master : Master} {new : MasterState}
    (notWaiting : ∀ kind number, new.phase ≠ .waiting kind number)
    (packet : Packet (Endpoint Master) (Message Master)) :
    packetToken (state.setMaster master new).masters packet = none ∨
      packetToken (state.setMaster master new).masters packet =
        packetToken state.masters packet := by
  rcases packet with ⟨source, destination, payload⟩
  simp only [packetToken]
  split
  · next request =>
      by_cases same : request.master = master
      · left
        rw [← same, setMaster_masters_self, if_neg (notWaiting _ _)]
      · right
        rw [setMaster_masters_of_ne same]
  · exact Or.inr rfl
  · exact Or.inr rfl

/-- A master that makes a new request is not waiting for any acknowledgement in flight. -/
theorem packetToken_request {state : State Master} {master : Master} {new : MasterState}
    {packet : Packet (Endpoint Master) (Message Master)} {kind : Kind}
    (phase_eq : new.phase = .waiting kind (state.masters master).nextRequest)
    (made : ∀ request, Touches request packet → Made state request) :
    packetToken (state.setMaster master new).masters packet = none ∨
      packetToken (state.setMaster master new).masters packet =
        packetToken state.masters packet := by
  rcases packet with ⟨source, destination, payload⟩
  simp only [packetToken]
  split
  · next request =>
      by_cases same : request.master = master
      · left
        have earlier := made request (Or.inr rfl)
        rw [Made, same] at earlier
        rw [same, setMaster_masters_self, phase_eq, if_neg]
        simp only [MasterPhase.waiting.injEq, not_and]
        omega
      · right
        rw [setMaster_masters_of_ne same]
  · exact Or.inr rfl
  · exact Or.inr rfl

omit [DecidableEq Master] in
theorem heldToken_of_ne_holding {master : Master} {state : MasterState}
    (notHolding : ∀ number, state.phase ≠ .holding number) : heldToken master state = 0 := by
  cases phase_eq : state.phase with
  | holding number => exact absurd phase_eq (notHolding number)
  | _ => simp [heldToken, phase_eq]

omit [DecidableEq Master] in
theorem heldToken_of_mayRequest {master : Master} {state : MasterState} {kind : Kind}
    (may : state.MayRequest kind) : heldToken master state = 0 := by
  apply heldToken_of_ne_holding
  intro number phase_eq
  cases kind <;> simp [MasterState.MayRequest, phase_eq] at may

omit [DecidableEq Master] in
theorem heldToken_afterReply (master : Master) (state : MasterState) (number : ℕ) (kind : Kind)
    (message : Message Master) :
    heldToken master (state.afterReply number kind message) = 0 ∨
      kind = .ready ∧ message = .readyRecv ∧
        heldToken master (state.afterReply number kind message) = {⟨master, number⟩} := by
  simp only [MasterState.afterReply]
  split
  · left
    split <;> rfl
  · exact Or.inr ⟨rfl, rfl, rfl⟩
  · exact Or.inl rfl
  · exact Or.inl rfl

/-- Receiving the acknowledgement moves its token to the master; other replies carry none. -/
theorem compare_masterReceive {state : State Master} {master : Master} {kind : Kind} {number : ℕ}
    {packet : Packet (Endpoint Master) (Message Master)}
    {net : Network (Endpoint Master) (Message Master)} {new : MasterState}
    (phase_eq : (state.masters master).phase = .waiting kind number)
    (received : state.net.receive (waitingSocket master number) = some (packet, net))
    (new_eq : new = (state.masters master).afterReply number kind packet.payload) :
    (net.close (waitingSocket master number)).packets.filterMap
          (packetToken (state.setMaster master new).masters) + heldToken master new ≤
      state.net.packets.filterMap (packetToken state.masters) +
        heldToken master (state.masters master) := by
  rcases Network.receive_effect received with ⟨-, here, -, removed⟩
  have rest : (net.close (waitingSocket master number)).packets.filterMap
        (packetToken (state.setMaster master new).masters) ≤
      net.packets.filterMap (packetToken state.masters) := by
    refine le_trans ?_ (Multiset.filterMap_le_filterMap _
      (Network.packets_close_le (waitingSocket master number) net))
    apply filterMap_le_of_agree
    intro other _
    exact packetToken_setMaster (new_eq ▸ afterReply_phase_ne_waiting _ _ _ _) other
  refine le_trans ?_ (Multiset.le_add_right _ _)
  rw [removed, new_eq]
  rcases heldToken_afterReply master (state.masters master) number kind packet.payload with
    none | ⟨rfl, acknowledged, held⟩
  · rw [none, add_zero]
    rw [new_eq] at rest
    exact rest.trans (Multiset.filterMap_le_filterMap _ (Multiset.le_cons_self _ _))
  · have carried : packetToken state.masters packet = some ⟨master, number⟩ := by
      simp [packetToken, here, acknowledged, waitingSocket, phase_eq]
    rw [held, Multiset.filterMap_cons_some _ _ _ carried, add_comm, Multiset.singleton_add]
    rw [new_eq] at rest
    exact Multiset.cons_le_cons _ rest

section Steps

variable [Fintype Master]

omit [DecidableEq Master] in
theorem tokens_send_none {state next : State Master}
    {packet : Packet (Endpoint Master) (Message Master)}
    (masters_eq : next.masters = state.masters)
    (packets_eq : next.net.packets = packet ::ₘ state.net.packets)
    (noToken : packetToken state.masters packet = none) : tokens next = tokens state := by
  simp only [tokens, masters_eq, packets_eq, Multiset.filterMap_cons_none _ _ noToken]

/-- What one step does to the tokens, to the relay and to the lists it has received. -/
inductive TokenEffect (state next : State Master) : Prop
  /-- Tokens move or get lost. -/
  | moves (fewer : tokens next ≤ tokens state)
      (relay_eq : next.relay.token = state.relay.token)
      (consumed_eq : next.consumed = state.consumed)
  /-- The relay acknowledges a request and starts to receive. -/
  | acknowledges (request : Request Master) (idle : state.relay.token = 0)
      (relay_eq : next.relay.token = {request})
      (created : tokens next ≤ request ::ₘ tokens state)
      (consumed_eq : next.consumed = state.consumed)
  /-- The relay receives a list, and with it the token. -/
  | consumes (client request : Request Master) (relay_eq : state.relay.token = {client})
      (taken : request ::ₘ tokens next = tokens state) (idle : next.relay.token = 0)
      (consumed_eq : next.consumed = (.client client, .list request) :: state.consumed)

theorem tokenEffect_of_step {state next : State Master} {action : Action Master}
    (wellFormed : WellFormed state) (stepped : Step state action next) :
    TokenEffect state next := by
  cases stepped with
  | deliver delivered =>
      exact .moves (tokens_le_of_packets_le rfl (Network.packets_deliver_le delivered)) rfl rfl
  | lose lost =>
      exact .moves (tokens_le_of_packets_le rfl (Network.packets_lose_le lost)) rfl rfl
  | bindCtrl relay_eq =>
      exact .moves (tokens_le_of_packets_le rfl (le_refl _)) (by rw [relay_eq]; rfl) rfl
  | bindData relay_eq => exact .moves (tokens_le_of_packets_le rfl (le_refl _)) rfl rfl
  | accept relay_eq received kind_eq =>
      exact .moves (tokens_le_of_packets_le rfl (Network.packets_receive_le received))
        (by rw [relay_eq]; rfl) rfl
  | reject relay_eq received =>
      exact .moves (tokens_le_of_packets_le rfl (Network.packets_receive_le received)) rfl rfl
  | replyJoin relay_eq | replyFetch relay_eq =>
      rcases wellFormed.client_made _ (by rw [relay_eq]; rfl) with ⟨request, rfl, -⟩
      exact .moves (le_of_eq (tokens_send_none rfl rfl rfl)) (by rw [relay_eq]; rfl) rfl
  | replyReady relay_eq =>
      rcases wellFormed.client_made _ (by rw [relay_eq]; rfl) with ⟨request, rfl, -⟩
      refine .acknowledges request (by rw [relay_eq]; rfl) rfl ?_ rfl
      cases carried : packetToken state.masters ⟨.relayCtrl, .client request, .readyRecv⟩ with
      | none =>
          refine le_trans (le_of_eq ?_) (Multiset.le_cons_self (tokens state) request)
          exact tokens_send_none rfl rfl carried
      | some other =>
          have same : other = request := by
            simp only [packetToken] at carried
            split at carried
            · exact (Option.some.inj carried).symm
            · contradiction
          subst other
          simp only [tokens, Network.packets_send, Multiset.filterMap_cons_some _ _ _ carried,
            Multiset.cons_add]
          exact le_refl _
  | @consume client packet net relay_eq received =>
      rcases Network.receive_effect received with ⟨-, atData, -, removed⟩
      rcases wellFormed.client_made _ (by rw [relay_eq]; rfl) with ⟨acknowledged, rfl, -⟩
      cases wellFormed.traffic packet (Network.mem_packets_of_receive received) with
      | request => contradiction
      | reply => contradiction
      | list request =>
          refine .consumes acknowledged request (by rw [relay_eq]; rfl) ?_ rfl rfl
          simp only [tokens, removed]
          rw [Multiset.filterMap_cons_some _ _ _ (packetToken_list _ _), Multiset.cons_add]
  | @request master kind current client current_eq may client_eq =>
      subst current client
      refine .moves (tokens_setMaster_le _ ?_) rfl rfl
      rw [heldToken_of_mayRequest may, heldToken_of_ne_holding (by simp), Network.packets_send,
        Network.packets_bind, Multiset.filterMap_cons_none _ _ (by cases kind <;> rfl)]
      apply Multiset.add_le_add_right
      apply filterMap_le_of_agree
      intro packet packet_mem
      exact packetToken_request rfl (wellFormed.made packet packet_mem)
  | masterReceive phase_eq received =>
      exact .moves (tokens_setMaster_le _ (compare_masterReceive phase_eq received rfl)) rfl rfl
  | @masterTimeout master kind number phase_eq =>
      refine .moves (tokens_setMaster_le _ ?_) rfl rfl
      rw [heldToken_of_ne_holding (by cases kind <;> simp [MasterState.afterTimeout]), add_zero]
      refine le_trans ?_ (Multiset.le_add_right _ _)
      refine le_trans ?_ (Multiset.filterMap_le_filterMap _
        (Network.packets_close_le (waitingSocket master number) state.net))
      apply filterMap_le_of_agree
      intro packet _
      exact packetToken_setMaster (afterTimeout_phase_ne_waiting _ _) packet
  | @masterSendList master number phase_eq =>
      refine .moves (tokens_setMaster_le _ ?_) rfl rfl
      have held : heldToken master (state.masters master) = {⟨master, number⟩} := by
        simp [heldToken, phase_eq]
      rw [held, heldToken_of_ne_holding (by simp), add_zero, Network.packets_send, add_comm,
        Multiset.singleton_add, Multiset.filterMap_cons_some _ _ _ (packetToken_list _ _)]
      apply Multiset.cons_le_cons
      apply filterMap_le_of_agree
      intro packet _
      exact packetToken_setMaster (by simp) packet
  | masterNextRound phase_eq =>
      refine .moves (tokens_setMaster_le state.net ?_) rfl rfl
      rw [heldToken_of_ne_holding (by simp), add_zero]
      refine le_trans ?_ (Multiset.le_add_right _ _)
      apply filterMap_le_of_agree
      intro packet _
      exact packetToken_setMaster (by simp) packet
  | masterFail phase_eq =>
      refine .moves (tokens_setMaster_le state.net ?_) rfl rfl
      rw [heldToken_of_ne_holding (by simp), add_zero]
      refine le_trans ?_ (Multiset.le_add_right _ _)
      apply filterMap_le_of_agree
      intro packet _
      exact packetToken_setMaster (by simp) packet

/-- The tokens the relay's phase allows, and the pairing they enforce. -/
structure TokenInvariant (state : State Master) : Prop where
  bounded : tokens state ≤ state.relay.token
  paired : ∀ client message, (client, message) ∈ state.consumed →
    ∃ request, client = .client request ∧ message = .list request

omit [DecidableEq Master] in
theorem tokenInvariant_initial : TokenInvariant (State.initial : State Master) where
  bounded := by
    have none : tokens (State.initial : State Master) = 0 := by
      simp [tokens, State.initial, heldToken]
    rw [none]
    exact Multiset.zero_le _
  paired client message consumed_mem := by simp [State.initial] at consumed_mem

omit [DecidableEq Master] in
theorem TokenInvariant.of_effect {state next : State Master} (invariant : TokenInvariant state)
    (effect : TokenEffect state next) : TokenInvariant next := by
  cases effect with
  | moves fewer relay_eq consumed_eq =>
      refine ⟨?_, ?_⟩
      · rw [relay_eq]
        exact fewer.trans invariant.bounded
      · rw [consumed_eq]
        exact invariant.paired
  | acknowledges request idle relay_eq created consumed_eq =>
      refine ⟨?_, ?_⟩
      · have none : tokens state = 0 := Multiset.le_zero.mp (idle ▸ invariant.bounded)
        rw [relay_eq]
        simpa [none] using created
      · rw [consumed_eq]
        exact invariant.paired
  | consumes client request relay_eq taken idle consumed_eq =>
      have bounded := invariant.bounded
      rw [relay_eq, ← taken, Multiset.le_singleton] at bounded
      rcases bounded with empty | single
      · exact absurd empty (Multiset.cons_ne_zero)
      · rcases (Multiset.singleton_eq_cons_iff _).mp single.symm with ⟨rfl, none⟩
        refine ⟨?_, ?_⟩
        · rw [none]
          exact Multiset.zero_le _
        · intro client' message consumed_mem
          rw [consumed_eq, List.mem_cons] at consumed_mem
          rcases consumed_mem with new | old
          · simp only [Prod.mk.injEq] at new
            exact ⟨client, new⟩
          · exact invariant.paired client' message old

theorem tokenInvariant_inductive (allowed : State Master → Action Master → Prop) :
    (system Master).Inductive allowed fun state => WellFormed state ∧ TokenInvariant state :=
  (wellFormed_inductive allowed).and tokenInvariant_initial fun stepped _ wellFormed invariant =>
    invariant.of_effect (tokenEffect_of_step wellFormed (.of_step stepped))

def RelayPhase.InAcceptRequest (relay : RelayPhase Master) : Prop :=
  ∀ client, relay ≠ .receiving client

/--
There is at most one token, and none while the relay is in `accept_request`.
Every list the relay has received was the one sent for the request it had
acknowledged.
-/
theorem token_unique (state : State Master) (reached : (system Master).Reachable state) :
    (tokens state).card ≤ 1 ∧ (state.relay.InAcceptRequest → (tokens state).card = 0) ∧
      ∀ client message, (client, message) ∈ state.consumed →
        ∃ request, client = .client request ∧ message = .list request := by
  have invariant := ((tokenInvariant_inductive fun _ _ => True).holds reached).2
  have bounded := Multiset.card_le_card invariant.bounded
  refine ⟨?_, ?_, invariant.paired⟩
  · refine bounded.trans ?_
    simp only [RelayPhase.token]
    split <;> simp
  · intro accepting
    have none : state.relay.token = 0 := by
      simp only [RelayPhase.token]
      split
      · next request relay_eq => exact absurd relay_eq (accepting _)
      · rfl
    simpa [none] using bounded

end Steps

theorem token_unique_completedRound : ∃ state : State (Fin 2),
    (system (Fin 2)).run completedRound = some state ∧
      state.consumed = [(.client ⟨0, 1⟩, .list ⟨0, 1⟩)] ∧
      (tokens state).card ≤ 1 ∧ (state.relay.InAcceptRequest → (tokens state).card = 0) ∧
      ∀ client message, (client, message) ∈ state.consumed →
        ∃ request, client = .client request ∧ message = .list request := by
  have logged : ((system (Fin 2)).run completedRound).map State.consumed =
      some [(.client ⟨0, 1⟩, .list ⟨0, 1⟩)] := by decide
  rcases Option.map_eq_some_iff.mp logged with ⟨state, ran, consumed_eq⟩
  exact ⟨state, ran, consumed_eq, token_unique state (TransitionSystem.reachable_of_run ran)⟩

end NodeinfoSystem.Exchange
