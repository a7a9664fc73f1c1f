import NodeinfoSystem.HugeCluster.Order
import NodeinfoSystem.HugeCluster.Rounds
import NodeinfoSystem.Relay.NetworkIds

/-!
# Whose lists carry which network id

A master that has joined keeps the id the relay sent it, and no other master has the
same one while the counter has not overflowed. So as long as every master sends its own
list, a network id in a list tells which master sent it.
-/

namespace NodeinfoSystem.HugeCluster

open Foundation Exchange Wire

variable {Master : Type}

/-! ## The id of a master -/

/-- The join request is over. -/
def Joined (state : MasterState) : Prop :=
  state.phase ≠ .starting ∧ ∀ number, state.phase ≠ .waiting .join number

theorem joined_of_holding {state : MasterState} {number : ℕ}
    (phase_eq : state.phase = .holding number) : Joined state := by
  simp [Joined, phase_eq]

theorem joined_afterReply {state : MasterState} {kind : Kind} {number : ℕ}
    (joined : Joined state) (phase_eq : state.phase = .waiting kind number)
    (message : Message Master) :
    Joined (state.afterReply number kind message) ∧
      (state.afterReply number kind message).networkId = state.networkId := by
  simp only [MasterState.afterReply]
  split
  · exact absurd phase_eq (joined.2 _)
  all_goals simp [Joined]

theorem joined_afterTimeout {state : MasterState} {kind : Kind} {number : ℕ}
    (joined : Joined state) (phase_eq : state.phase = .waiting kind number) :
    Joined (state.afterTimeout kind) ∧ (state.afterTimeout kind).networkId = state.networkId := by
  cases kind with
  | join => exact absurd phase_eq (joined.2 _)
  | ready | fetch => simp [MasterState.afterTimeout, Joined]

section Steps

variable [DecidableEq Master] {state next : State Master} {action : Action Master}

/-- A property of one master survives a step of that master or is not concerned. -/
theorem masters_setMaster {property : MasterState → Prop} {master other : Master}
    {new : MasterState} {net : Network (Endpoint Master) (Message Master)}
    (old : property (state.masters other)) (updated : other = master → property new) :
    property (((state.setNet net).setMaster master new).masters other) := by
  by_cases same : other = master
  · rw [same, setMaster_masters_self]
    exact updated same
  · rw [setMaster_masters_of_ne same]
    exact old

/-- A master that has joined stays so and keeps its id. -/
theorem joined_step {master : Master} (stepped : Exchange.Step state action next)
    (joined : Joined (state.masters master)) :
    Joined (next.masters master) ∧
      (next.masters master).networkId = (state.masters master).networkId := by
  let property (new : MasterState) : Prop :=
    Joined new ∧ new.networkId = (state.masters master).networkId
  change property (next.masters master)
  have kept : property (state.masters master) := ⟨joined, rfl⟩
  cases stepped with
  | deliver | lose | bindCtrl | bindData | accept | reject | replyJoin | replyReady | replyFetch
  | consume => exact kept
  | @request other kind current client current_eq may client_eq =>
      subst current client
      refine masters_setMaster kept ?_
      rintro rfl
      refine ⟨⟨by simp, ?_⟩, rfl⟩
      intro number waiting
      simp only [MasterPhase.waiting.injEq] at waiting
      rcases waiting with ⟨rfl, -⟩
      exact joined.1 may
  | @masterReceive other kind number packet net phase_eq received =>
      refine masters_setMaster kept ?_
      rintro rfl
      exact joined_afterReply joined phase_eq _
  | @masterTimeout other kind number phase_eq =>
      refine masters_setMaster kept ?_
      rintro rfl
      exact joined_afterTimeout joined phase_eq
  | @masterSendList other number phase_eq =>
      refine masters_setMaster kept ?_
      rintro rfl
      exact ⟨by simp [Joined], rfl⟩
  | @masterNextRound other phase_eq =>
      change property (((state.setNet state.net).setMaster other _).masters master)
      refine masters_setMaster kept ?_
      rintro rfl
      exact ⟨by simp [Joined], rfl⟩
  | @masterFail other phase_eq =>
      change property (((state.setNet state.net).setMaster other _).masters master)
      refine masters_setMaster kept ?_
      rintro rfl
      exact ⟨by simp [Joined], rfl⟩

omit [DecidableEq Master] in
theorem networkId_afterReply (old : MasterState) (number : ℕ) (kind : Kind)
    (message : Message Master) :
    (old.afterReply number kind message).networkId = old.networkId ∨
      message = .networkId (old.afterReply number kind message).networkId := by
  simp only [MasterState.afterReply]
  split
  · split
    · exact Or.inl rfl
    · exact Or.inr rfl
  all_goals exact Or.inl rfl

/-- An id a master did not have before came in a reply to one of its requests. -/
theorem networkId_step (master : Master) (stepped : Exchange.Step state action next)
    (positive : 0 < (next.masters master).networkId.toInt) :
    (next.masters master).networkId = (state.masters master).networkId ∨
      ∃ number, ∃ packet ∈ state.net.packets,
        packet.destination = waitingSocket master number ∧
          packet.payload = .networkId (next.masters master).networkId := by
  let property (new : MasterState) : Prop :=
    0 < new.networkId.toInt → new.networkId = (state.masters master).networkId ∨
      ∃ number, ∃ packet ∈ state.net.packets,
        packet.destination = waitingSocket master number ∧ packet.payload = .networkId new.networkId
  revert positive
  change property (next.masters master)
  have kept : property (state.masters master) := fun _ => Or.inl rfl
  cases stepped with
  | deliver | lose | bindCtrl | bindData | accept | reject | replyJoin | replyReady | replyFetch
  | consume => exact kept
  | request current_eq may client_eq =>
      subst current_eq
      refine masters_setMaster kept ?_
      rintro rfl _
      exact Or.inl rfl
  | @masterReceive other kind number packet net phase_eq received =>
      refine masters_setMaster kept ?_
      rintro rfl _
      rcases networkId_afterReply (state.masters master) number kind packet.payload with
        same | carried
      · exact Or.inl same
      · rcases Network.receive_effect received with ⟨-, here, -, -⟩
        exact Or.inr ⟨number, packet, Network.mem_packets_of_receive received, here, carried⟩
  | @masterTimeout other kind number phase_eq =>
      refine masters_setMaster kept ?_
      rintro rfl positive
      cases kind with
      | join => simp [MasterState.afterTimeout, isTimeout] at positive
      | ready | fetch => exact Or.inl rfl
  | masterSendList =>
      refine masters_setMaster kept ?_
      rintro rfl _
      exact Or.inl rfl
  | @masterNextRound other phase_eq | @masterFail other phase_eq =>
      change property (((state.setNet state.net).setMaster other _).masters master)
      refine masters_setMaster kept ?_
      rintro rfl _
      exact Or.inl rfl

end Steps

/-- Every id a master has, or is about to receive, is in a reply of the relay to that master. -/
structure Identified (state : State Master) (data : Data Master) : Prop where
  underWay : ∀ packet ∈ state.net.packets, ∀ request id, packet.destination = .client request →
    packet.payload = .networkId id → (.client request, Relay.Reply.networkId id) ∈ data.replies
  assigned : ∀ master, 0 < (state.masters master).networkId.toInt →
    ∃ number, (waitingSocket master number,
      Relay.Reply.networkId (state.masters master).networkId) ∈ data.replies

theorem identified_initial :
    Identified (Exchange.State.initial : State Master) Data.initial where
  underWay _ packet_mem := by simp [Exchange.State.initial] at packet_mem
  assigned _ positive := by simp [Exchange.State.initial] at positive

section Steps

variable [DecidableEq Master] {state next : State Master} {data after : Data Master}
  {action : Action Master} {input : Input}

/-- A packet to a master is an old one, or it is what the relay replies in this step. -/
theorem Effect.mem_packets (effect : Effect state data input action next after)
    {packet : Packet (Endpoint Master) (Message Master)} (packet_mem : packet ∈ next.net.packets)
    {request : Request Master} (toClient : packet.destination = .client request) :
    packet ∈ state.net.packets ∨ ∀ id, packet.payload = .networkId id →
      (.client request, Relay.Reply.networkId id) ∈ after.replies := by
  cases effect with
  | quiet quiet | stored quiet =>
      rcases quiet.packets packet packet_mem with old | toCtrl
      · exact Or.inl old
      · rw [toCtrl] at toClient
        contradiction
  | joined relay_eq =>
      rw [Network.packets_send, Multiset.mem_cons] at packet_mem
      rcases packet_mem with rfl | old
      · right
        intro id payload_eq
        simp only [Message.networkId.injEq] at payload_eq
        simp only at toClient
        simp [Data.reply, toClient, payload_eq]
      · exact Or.inl old
  | acknowledged relay_eq | answered relay_eq =>
      rw [Network.packets_send, Multiset.mem_cons] at packet_mem
      rcases packet_mem with rfl | old
      · exact Or.inr (by simp)
      · exact Or.inl old
  | received relay_eq taken =>
      exact Or.inl (Multiset.mem_of_le (Network.packets_receive_le taken) packet_mem)
  | sent phase_eq payload_eq =>
      rw [setMaster_net, setNet_net, Network.packets_send, Multiset.mem_cons] at packet_mem
      rcases packet_mem with rfl | old
      · contradiction
      · exact Or.inl old

theorem Identified.of_effect (stepped : Exchange.Step state action next)
    (effect : Effect state data input action next after) (identified : Identified state data) :
    Identified next after where
  underWay packet packet_mem request id toClient payload_eq := by
    rcases effect.mem_packets packet_mem toClient with old | replied
    · exact effect.extends_.replies.subset
        (identified.underWay packet old request id toClient payload_eq)
    · exact replied id payload_eq
  assigned master positive := by
    rcases networkId_step master stepped positive with
      same | ⟨number, packet, packet_mem, toClient, payload_eq⟩
    · rw [same] at positive ⊢
      rcases identified.assigned master positive with ⟨number, replied⟩
      exact ⟨number, effect.extends_.replies.subset replied⟩
    · exact ⟨number, effect.extends_.replies.subset
        (identified.underWay packet packet_mem _ _ toClient payload_eq)⟩

end Steps

/-! ## Different masters, different ids -/

/-- The ids among the replies. -/
def assignedIds (data : Data Master) : List Int32 :=
  data.replies.filterMap fun reply => reply.2.id?

theorem assignedIds_of_represents {state : State Master} {data : Data Master}
    {relay : Relay.State (Endpoint Master)} (represents : Represents state data relay) :
    assignedIds data = Relay.assignedIds relay := by
  have none : (pending state.relay).filterMap (fun reply => reply.2.id?) = [] := by
    simp only [pending, List.filterMap_map]
    exact List.filterMap_eq_nil_iff.mpr fun client _ => rfl
  rw [assignedIds, represents.replies_eq, List.filterMap_append, none, List.append_nil]
  rfl

/-- The ids of a run of the relay are numbered from one, so they are different. -/
theorem nodup_assignedIds {rounds : List (Relay.Round (Endpoint Master))}
    {relay : Relay.State (Endpoint Master)}
    (ran : (Relay.relay (Endpoint Master)).run rounds = some relay)
    (few : (Relay.assignedIds relay).length < 2 ^ 31 - 1) : (Relay.assignedIds relay).Nodup := by
  rw [(Relay.Numbered.of_run ran).assigned_eq]
  apply List.Nodup.map_on _ List.nodup_range
  intro first first_mem second second_mem equal
  have first_eq := Relay.toInt_numberedId (Nat.lt_trans (List.mem_range.mp first_mem) few)
  have second_eq := Relay.toInt_numberedId (Nat.lt_trans (List.mem_range.mp second_mem) few)
  rw [equal, second_eq] at first_eq
  omega

/-- Elements with the same image are one element when no image occurs twice. -/
theorem eq_of_nodup_filterMap {α β : Type} {f : α → Option β} {xs : List α} {x y : α} {z : β}
    (nodup : (xs.filterMap f).Nodup) (x_mem : x ∈ xs) (y_mem : y ∈ xs) (x_eq : f x = some z)
    (y_eq : f y = some z) : x = y := by
  induction xs with
  | nil => contradiction
  | cons w ws ih =>
      rcases List.mem_cons.mp x_mem with rfl | x_later
      · rcases List.mem_cons.mp y_mem with rfl | y_later
        · rfl
        · rw [List.filterMap_cons_some x_eq, List.nodup_cons] at nodup
          exact absurd (List.mem_filterMap.mpr ⟨y, y_later, y_eq⟩) nodup.1
      · rcases List.mem_cons.mp y_mem with rfl | y_later
        · rw [List.filterMap_cons_some y_eq, List.nodup_cons] at nodup
          exact absurd (List.mem_filterMap.mpr ⟨x, x_later, x_eq⟩) nodup.1
        · exact ih (nodup.sublist ((List.sublist_cons_self w ws).filterMap f)) x_later y_later

/-- While the counter has not overflowed, no two masters have the same positive id. -/
theorem master_unique {state : State Master} {data : Data Master} (refined : Refined state data)
    (identified : Identified state data) (few : (assignedIds data).length < 2 ^ 31 - 1)
    {first second : Master} (positive : 0 < (state.masters first).networkId.toInt)
    (same : (state.masters first).networkId = (state.masters second).networkId) :
    first = second := by
  rcases refined with ⟨relay, ran, represents⟩
  have nodup : (assignedIds data).Nodup := by
    rw [assignedIds_of_represents represents] at few ⊢
    exact nodup_assignedIds ran few
  rcases identified.assigned first positive with ⟨number, replied⟩
  rcases identified.assigned second (same ▸ positive) with ⟨number', replied'⟩
  rw [← same] at replied'
  have one := eq_of_nodup_filterMap nodup replied replied' rfl rfl
  simp only [waitingSocket, Prod.mk.injEq, Endpoint.client.injEq, Request.mk.injEq,
    and_true] at one
  exact one.1

end NodeinfoSystem.HugeCluster
